import Debounce.Proofs.Calls
import Debounce.Proofs.Next
import Debounce.Proofs.Period
import Debounce.Proofs.Policies
import Debounce.Proofs.Registrations
import Debounce.Proofs.Shared
import Debounce.Proofs.Times

/-!
# Debouncing for a range

Debouncing for a range makes the begin of the range the idle time as well. A timer therefore starts
with the begin of the interval, whatever was called before, and a call that comes later moves it to
a time within the interval after the call that opened the period. The clock never passes a timer,
and a call runs the work before its timer only if that timer could not be moved any more. So the
work runs within the interval too, however the calls come.
-/

namespace Debounce

/-! ## The policy of a range -/

section Policy

namespace Interval

variable {path : List String} {fields : List (String × Value)} {bounds : Interval}
variable {bounds? : Option Interval} {range : Value}

/-- The begin that the fields of an interval give. -/
theorem begin_of_ofFields (read : ofFields path fields = .ok bounds) :
    ∃ begin span, Value.field? fields "begin" = some begin ∧
      begin.toSpan .negativeInterval = .ok span ∧ bounds.begin = span.val := by
  rw [ofFields_eq_checkRange, checkRange_eq_ok] at read
  obtain ⟨begin, given, begins, -⟩ := read
  exact ⟨begin, ⟨bounds.begin, bounds.begin_nonneg⟩, given, Value.toSpan_eq_ok.mpr begins, rfl⟩

/-- Unless a shape is a mapping, its begin is the begin of the range. -/
theorem field?_of_shape (shape : Shape.ofValue range = .ok (.fields fields))
    (other : ∀ entries, range ≠ .mapping entries) :
    Value.field? fields "begin" = some (Guard.rangeBegin range) := by
  cases range with
  | mapping entries => exact absurd rfl (other entries)
  | null | interval bounds => cases shape
  | list items | tuple items =>
      rcases items with _ | ⟨begin, _ | ⟨last, _ | _⟩⟩ <;> cases shape
      rfl
  | bool | int | float | text | bytes | duration =>
      cases shape
      rfl

theorem eq_interval_of_shape (shape : Shape.ofValue range = .ok (.given bounds)) :
    range = .interval bounds := by
  rw [Shape.ofValue.eq_def] at shape
  split at shape <;> cases shape
  rfl

theorem eq_null_of_shape (shape : Shape.ofValue range = .ok .absent) : range = .null := by
  rw [Shape.ofValue.eq_def] at shape
  split at shape <;> cases shape
  rfl

/-- The begin of a range that is no mapping is read as the begin of the interval that the range is
read as. -/
theorem idle_of_ofValue (read : ofValue path range = .ok bounds?)
    (other : ∀ entries, range ≠ .mapping entries) (negative : Refusal) :
    ∃ idle?, (Guard.rangeBegin range).toSpan? negative = .ok idle? ∧
      idle?.map Subtype.val = bounds?.map begin := by
  rw [ofValue] at read
  split at read
  · cases read
  · next shape =>
      cases read
      obtain rfl := eq_null_of_shape shape
      exact ⟨none, rfl, rfl⟩
  · next bounds shape =>
      cases read
      obtain rfl := eq_interval_of_shape shape
      have begins := Value.toSpan_duration bounds.begin_nonneg .negativeInterval
      exact ⟨_, Value.toSpan?_of_toSpan begins negative, rfl⟩
  · next fields shape =>
      cases reads : ofFields path fields with
      | error objection => simp [reads, Except.map] at read
      | ok bounds =>
          obtain rfl : some bounds = bounds? := by simpa [reads, Except.map] using read
          obtain ⟨begin, span, given, begins, least⟩ := begin_of_ofFields reads
          obtain rfl : begin = Guard.rangeBegin range :=
            Option.some.inj (given.symm.trans (field?_of_shape shape other))
          refine ⟨_, Value.toSpan?_of_toSpan begins negative, ?_⟩
          rw [Option.map_some, Option.map_some, least]

end Interval

/-- The policy of debouncing for a range with these bounds: calls are debounced on the trailing
edge, and the begin of the interval is the idle time as well. -/
def Settings.forRange (bounds : Interval) : Settings where
  interval := some bounds
  leading := false
  idleTime := some bounds.begin
  idleTime_nonneg _ given := Option.some.inj given ▸ bounds.begin_nonneg

/-- The policy that a guard comes with, or why it is refused. -/
def Guard.settings (guard : Guard) : Except Fault Settings :=
  Settings.build guard.interval guard.leading guard.idleTime

namespace Guard

variable {range : Value} {settings plain : Settings} {bounds : Interval} {last : Duration}

/-- The policy of throttling has the interval that the range is read as, and nothing else. -/
theorem throttleFor_settings_eq_ok :
    (throttleFor range).settings = .ok plain ↔
      Interval.ofValue ["interval"] range = .ok plain.interval ∧
        plain.leading = false ∧ plain.idleTime = none := by
  rw [settings, Settings.build_eq_ok]
  constructor
  · rintro ⟨read, flag, idle?, idles, idleTime⟩
    obtain rfl := Except.ok.inj idles
    exact ⟨read, (Except.ok.inj flag).symm, idleTime⟩
  · rintro ⟨read, flag, idleTime⟩
    exact ⟨read, congrArg Except.ok flag.symm, none, rfl, idleTime⟩

/-- Debouncing for a range that is a mapping is never accepted, as a mapping is no idle time. -/
theorem ne_mapping_of_settings (built : (debounceFor range).settings = .ok settings)
    (entries : List (String × Value)) : range ≠ .mapping entries := by
  rintro rfl
  obtain ⟨-, -, _, idles, -⟩ := Settings.build_eq_ok.mp built
  cases idles

/-- Debouncing for a range is accepted if throttling is, unless the range is a mapping. The begin of
the interval is then the idle time. -/
theorem debounceFor_settings_eq_ok :
    (debounceFor range).settings = .ok settings ↔
      (∀ entries, range ≠ .mapping entries) ∧
        ∃ plain, (throttleFor range).settings = .ok plain ∧
          settings.interval = plain.interval ∧ settings.leading = false ∧
          settings.idleTime = plain.interval.map Interval.begin := by
  constructor
  · intro built
    have other := ne_mapping_of_settings built
    obtain ⟨read, flag, idle?, idles, idleTime⟩ := Settings.build_eq_ok.mp built
    obtain ⟨same?, again, begins⟩ := Interval.idle_of_ofValue read other .negativeIdleTime
    obtain rfl : idle? = same? := Except.ok.inj (idles.symm.trans again)
    let plain : Settings := ⟨settings.interval, false, none, nofun⟩
    exact ⟨other, plain, throttleFor_settings_eq_ok.mpr ⟨read, rfl, rfl⟩, rfl,
      (Except.ok.inj flag).symm, idleTime.trans begins⟩
  · rintro ⟨other, plain, built, interval, leading, idleTime⟩
    obtain ⟨read, -, -⟩ := throttleFor_settings_eq_ok.mp built
    obtain ⟨idle?, idles, begins⟩ := Interval.idle_of_ofValue read other .negativeIdleTime
    exact Settings.build_eq_ok.mpr ⟨interval ▸ read, congrArg Except.ok leading.symm, idle?, idles,
      idleTime.trans begins.symm⟩

/-- A mapping that is a valid interval is refused as an idle time. -/
theorem debounceFor_mapping {entries : List (String × Value)}
    (built : (throttleFor (.mapping entries)).settings = .ok plain) :
    (debounceFor (.mapping entries)).settings =
      .error (.invalidPolicy [⟨["idle_time"], .notADuration⟩]) := by
  obtain ⟨read, -, -⟩ := throttleFor_settings_eq_ok.mp built
  simp only [settings, Guard.interval, Guard.leading, Guard.idleTime, rangeBegin, Settings.build,
    Settings.check, read]
  rfl

/-- However a range is written, debouncing for it has the policy of its bounds. -/
theorem settings_eq_forRange (built : (debounceFor range).settings = .ok settings)
    (interval : settings.interval = some bounds) : settings = .forRange bounds := by
  obtain ⟨-, plain, -, same, leading, idleTime⟩ := debounceFor_settings_eq_ok.mp built
  refine Settings.ext_parts interval leading ?_
  rw [idleTime, ← same, interval]
  rfl

/-- Every interval is accepted as a range. -/
theorem settings_of_interval (bounds : Interval) :
    (debounceFor (.interval bounds)).settings = .ok (.forRange bounds) :=
  mapError_eq_ok.mpr (Settings.check_values (.forRange bounds))

end Guard

end Policy

/-! ## Timers within a range -/

section Timers

variable {τ : Type} [Instant τ]

/-- A timer that is set in a period for a time within the interval after the beginning of the
period, and that the clock has not passed. -/
structure InTime (bounds : Interval) (last : Duration) (stamp now time : τ) : Prop where
  comparable : stamp ≤ stamp
  ahead : now ≤ time
  begins : stamp + bounds.begin.seconds ≤ time
  ends : time ≤ stamp + last.seconds

omit [Instant τ] in
/-- A turn that asks for an execution tells of this one alone. -/
theorem Turn.Executes.told_iff {σ ω : Type} {turn : Turn τ σ ω} {cause other : Cause} {name : Value}
    (executes : turn.Executes cause) :
    .executed name other ∈ turn.events ↔ name = turn.debouncer.name ∧ other = cause := by
  rcases executes.events with ⟨earlier, reported, silent⟩
  rw [reported, List.mem_append, List.mem_singleton, Event.executed.injEq]
  exact or_iff_right fun before => silent _ before trivial

namespace Debouncer

variable {κ ω : Type} {debouncer : Debouncer τ ω} {agenda : Agenda τ κ} {bounds : Interval}
variable {last : Duration} {callback : κ} {request : Request ω} {turn : Turn τ (Agenda τ κ) ω}
variable {stamp now time : τ}

/-- The timer that the debouncer awaits is in time. -/
def KeepsTime (bounds : Interval) (last : Duration) (debouncer : Debouncer τ ω)
    (agenda : Agenda τ κ) : Prop :=
  ∀ place time stamp, Awaits debouncer agenda place time stamp →
    InTime bounds last stamp agenda.now time

theorem KeepsTime.of_timer_eq_none (free : debouncer.timer = none) :
    debouncer.KeepsTime bounds last agenda := by
  intro place time stamp awaits
  cases free.symm.trans awaits.timer

section Laws

variable [Instant.LawfulDeadlines τ] (policy : debouncer.settings = .forRange bounds)

include policy

/-- The idle time never makes the delay of a new timer longer, as it is the begin itself. -/
theorem firstDelay_forRange (now : τ) : debouncer.firstDelay now = bounds.begin.seconds := by
  have sameBounds : debouncer.settings.interval = some bounds := policy ▸ rfl
  rcases firstDelay_cases sameBounds now with least | ⟨idle, _, given, _, _, longer, _⟩
  · exact least
  · rw [policy] at given
    obtain rfl : bounds.begin = idle := Option.some.inj given
    have same : (bounds.begin.seconds : τ) ≤ bounds.begin.seconds :=
      Instant.Lawful.ofMicros_le (Int.le_refl _)
    exact absurd longer (Instant.LawfulDeadlines.not_lt same)

variable (limit : bounds.limit? = some last) (inRange : (Settings.forRange bounds).InRange)

include limit inRange

/-- A timer that starts is in time. -/
theorem inTime_of_opened (comparable : now ≤ now) :
    InTime bounds last now now (now + debouncer.firstDelay now) := by
  have beginInRange := inRange.begin bounds rfl
  have empty : now ≤ now + Instant.zero := Instant.LawfulDeadlines.le_add_zero comparable
  have delayed := Instant.Lawful.add_seconds comparable beginInRange
  rw [firstDelay_forRange policy]
  refine ⟨comparable, ?_, delayed, ?_⟩
  · calc now
      _ ≤ now + Instant.zero := empty
      _ ≤ now + bounds.begin.seconds :=
        Instant.Lawful.add_le_add comparable (Instant.Lawful.ofMicros_le bounds.begin_nonneg)
          (Instant.Lawful.le_right empty) delayed
  · exact Instant.add_seconds_le comparable (bounds.begin_le_limit last limit) beginInRange
      (inRange.limit bounds last rfl limit)

/-- A timer that is moved stays in time. -/
theorem inTime_of_moved (inTime : InTime bounds last stamp now time) :
    InTime bounds last stamp now (Instant.later time (debouncer.extension stamp now)) := by
  have sameBounds : debouncer.settings.interval = some bounds := policy ▸ rfl
  have capped := extension_le_limit sameBounds limit (inRange.begin bounds rfl)
    (inRange.limit bounds last rfl limit) inTime.comparable now
  have number := Instant.Lawful.le_right inTime.ahead
  have moved := Instant.le_later_left number (debouncer.extension stamp now)
  exact ⟨inTime.comparable, Instant.Lawful.le_trans inTime.ahead moved,
    Instant.Lawful.le_trans inTime.begins moved, Instant.later_le inTime.ends capped⟩

/-- Serving a request keeps the timer in time. -/
theorem KeepsTime.served (kept : debouncer.KeepsTime bounds last agenda)
    (minds : debouncer.Minds callback agenda) (comparable : agenda.now ≤ agenda.now)
    (form : Served debouncer agenda callback request turn) :
    turn.debouncer.KeepsTime bounds last turn.scheduler := by
  cases form with
  | refusedCall | refusedNow | ranNow | nothingToFlush => exact kept
  | passedOn _ through => simp [Settings.passthrough, policy, Settings.forRange] at through
  | leading _ _ leads _ => simp [policy, Settings.forRange] at leads
  | trailing found debounced edge call =>
      have now := (Served.trailing found debounced edge call).now
      intro place time stamp awaits
      rw [now]
      rcases call.awaits awaits with ⟨rfl, rfl, _⟩ | ⟨earlier, before, rfl, _⟩
      · exact inTime_of_opened policy limit inRange comparable
      · have inTime := kept place earlier stamp ⟨before.timer, before.status, before.stamped⟩
        exact inTime_of_moved policy limit inRange inTime
  | reset => exact .of_timer_eq_none (by simp [Debouncer.reset])
  | flushed => exact .of_timer_eq_none rfl
  | tooLateToFlush held refused => simp [minds.cancels held] at refused

omit limit in
/-- A call runs the work itself if the period is over. It is still within the interval then. -/
theorem KeepsTime.executes (kept : debouncer.KeepsTime bounds last agenda)
    (deliberate : request ≠ .callNow) (form : Served debouncer agenda callback request turn)
    {cause : Cause} (executes : turn.Executes cause) (other : cause ≠ .flush) :
    debouncer.timer.isSome ∧ ∃ stamp, debouncer.leadingTimestamp = some stamp ∧
      stamp + bounds.begin.seconds ≤ agenda.now ∧ agenda.now ≤ stamp + last.seconds := by
  rcases executes.demand with ⟨tail, demand⟩
  cases form with
  | refusedCall | refusedNow | reset | nothingToFlush | tooLateToFlush => cases demand
  | passedOn _ through => simp [Settings.passthrough, policy, Settings.forRange] at through
  | leading _ _ leads _ => simp [policy, Settings.forRange] at leads
  | ranNow => exact absurd rfl deliberate
  | flushed =>
      cases List.mem_singleton.mp (executes.told_iff.mpr ⟨rfl, rfl⟩)
      exact absurd rfl other
  | trailing _ _ _ call =>
      cases call with
      | opened | overtaken | moved | kept => cases demand
      | @overdue place time stamp awaits come _ =>
          have sameBounds : debouncer.settings.interval = some bounds := policy ▸ rfl
          have inTime := kept place time stamp ⟨awaits.timer, awaits.status, awaits.stamped⟩
          have least : stamp + bounds.begin.seconds ≤ debouncer.extension stamp agenda.now :=
            begin_le_extension sameBounds (inRange.begin bounds rfl) inTime.comparable agenda.now
          refine ⟨Option.isSome_of_eq_some awaits.timer, stamp, awaits.stamped, ?_, ?_⟩
          · exact Instant.Lawful.le_trans least come
          · exact Instant.Lawful.le_trans inTime.ahead inTime.ends

end Laws

/-- The timer that fires does so within the interval. -/
theorem KeepsTime.fires [Instant.Lawful τ] {deadline : τ} {place : TimerId} {timer : Timer τ κ}
    {fired : Agenda τ κ} (kept : debouncer.KeepsTime bounds last agenda)
    (found : agenda.fireNext? deadline = some (place, timer, fired))
    (awaits : Awaits debouncer agenda place time stamp) :
    stamp + bounds.begin.seconds ≤ fired.now ∧ fired.now ≤ stamp + last.seconds := by
  have inTime := kept place time stamp awaits
  rcases Agenda.fireNext?_eq_some found with ⟨stored, _, _, rfl⟩
  rcases Agenda.status?_eq_some.mp awaits.status with ⟨_, same, _, rfl⟩
  cases stored.symm.trans same
  have number := Instant.Lawful.le_left inTime.ahead
  have reached := Instant.le_later_right number (Instant.Lawful.le_right inTime.ahead)
  exact ⟨Instant.Lawful.le_trans inTime.begins reached,
    Instant.later_le (Instant.Lawful.le_trans inTime.ahead inTime.ends) inTime.ends⟩

end Debouncer

/-! ## The clock and the timers of others -/

namespace Agenda

variable {κ : Type} {agenda fired : Agenda τ κ} {deadline time : τ} {place other : TimerId}
variable {timer : Timer τ κ} [Instant.Lawful τ]

/-- The clock does not go beyond a timer that is not due. -/
theorem arrive_le (absent : agenda.fireNext? deadline = none)
    (status : Scheduler.status? agenda place = some ⟨true, time⟩) (ahead : agenda.now ≤ time) :
    (agenda.arrive deadline).now ≤ time := by
  rcases status?_eq_some.mp status with ⟨timer, stored, active, rfl⟩
  have late : ¬ timer.executionTime ≤ deadline := fun due =>
    fireNext?_ne_none stored active due absent
  simp only [arrive, Instant.later]
  split
  · next earlier =>
      have reached := Instant.Lawful.le_right (Instant.Lawful.le_of_lt earlier)
      exact Instant.Lawful.le_of_not_lt (Instant.Lawful.le_right ahead) reached fun due =>
        late (Instant.Lawful.le_of_lt due)
  · exact ahead

/-- Nor does it go beyond a timer that is not the next one to fire. -/
theorem fireNext?_now_le (found : agenda.fireNext? deadline = some (other, timer, fired))
    (status : Scheduler.status? agenda place = some ⟨true, time⟩) (ahead : agenda.now ≤ time) :
    fired.now ≤ time := by
  rcases status?_eq_some.mp status with ⟨waiting, stored, active, rfl⟩
  rcases fireNext?_eq_some found with ⟨_, _, due, rfl⟩
  apply Instant.later_le ahead
  by_cases early : waiting.executionTime ≤ deadline
  · exact fireNext?_le found stored active early
  · have earlier :=
      Instant.lt_of_not_le (Instant.Lawful.le_right due) (Instant.Lawful.le_right ahead) early
    exact Instant.Lawful.le_trans due (Instant.Lawful.le_of_lt earlier)

end Agenda

end Timers

end Debounce
