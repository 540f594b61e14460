import Debounce.Proofs.Shared

/-!
# Debouncers that mirror each other

A debouncer does not depend on the agenda that it uses, beyond the clock and the time of its own
timer. Two debouncers that are alike up to this, on agendas of their own that show the same clock,
ask for the same in every turn, and are alike after it.
-/

namespace Debounce

variable {τ κ ω : Type}

namespace Agenda

variable {agenda : Agenda τ κ} {id : TimerId} {time : τ}

theorem pending?_of_status [Instant τ] (status : Scheduler.status? agenda id = some ⟨true, time⟩) :
    (agenda.pending? id).map Timer.executionTime = some time := by
  rcases status?_eq_some.mp status with ⟨timer, stored, active, rfl⟩
  rw [pending?_eq_some.mpr ⟨stored, active⟩]
  rfl

end Agenda

namespace Debouncer

/-- The time that the debouncer's timer is set for, if it is pending. -/
def time? (debouncer : Debouncer τ ω) (agenda : Agenda τ κ) : Option τ :=
  debouncer.timer.bind fun id => (agenda.pending? id).map Timer.executionTime

/-- The debouncers are alike up to the places of their timers, which are set for the same time. -/
structure Mirrors (debouncer other : Debouncer τ ω) (agenda opposite : Agenda τ κ) : Prop where
  fields : other = { debouncer with timer := other.timer }
  times : other.time? opposite = debouncer.time? agenda

end Debouncer

/-- The turns report the same and ask for the same, and leave debouncers that mirror each other. -/
structure Turn.Mirrors (turn other : Turn τ (Agenda τ κ) ω) : Prop where
  events : other.events = turn.events
  demand : other.demand = turn.demand
  left : turn.debouncer.Mirrors other.debouncer turn.scheduler other.scheduler

namespace Debouncer

section Times

variable {debouncer : Debouncer τ ω} {agenda : Agenda τ κ} {callback : κ} {id : TimerId}
variable {time stamp : τ}

theorem time?_eq_none (free : debouncer.timer = none) : debouncer.time? agenda = none := by
  rw [time?, free]
  rfl

variable [Instant τ]

theorem Awaits.time? (awaits : Awaits debouncer agenda id time stamp) :
    debouncer.time? agenda = some time := by
  rw [Debouncer.time?, awaits.timer]
  exact Agenda.pending?_of_status awaits.status

namespace Minds

variable (minds : debouncer.Minds callback agenda)
include minds

theorem timer_eq_none_of_time? (absent : debouncer.time? agenda = none) :
    debouncer.timer = none := by
  apply minds.timer_eq_none
  intro id time stamp awaits
  rw [awaits.time?] at absent
  cases absent

theorem awaits_of_time? (timed : debouncer.time? agenda = some time) :
    ∃ id stamp, Awaits debouncer agenda id time stamp := by
  cases held : debouncer.timer with
  | none => cases (time?_eq_none held).symm.trans timed
  | some id =>
      rcases minds.awaits held with ⟨other, stamp, awaits⟩
      obtain rfl : other = time := Option.some.inj (awaits.time?.symm.trans timed)
      exact ⟨id, stamp, awaits⟩

/-- What can be seen of the timer is its time. -/
theorem timerStatus?_eq :
    debouncer.timerStatus? agenda = (debouncer.time? agenda).map (⟨true, ·⟩) := by
  cases timed : debouncer.time? agenda with
  | none => simp [timerStatus?, minds.timer_eq_none_of_time? timed]
  | some time =>
      rcases minds.awaits_of_time? timed with ⟨id, stamp, awaits⟩
      simp [timerStatus?, awaits.timer, awaits.status]

end Minds

end Times

section Serving

variable {debouncer other : Debouncer τ ω} {agenda opposite : Agenda τ κ}
variable {callback mirrored : κ}

theorem Mirrors.symm (mirrors : debouncer.Mirrors other agenda opposite) :
    other.Mirrors debouncer opposite agenda := by
  obtain ⟨held, rfl⟩ : ∃ held, other = { debouncer with timer := held } := ⟨_, mirrors.fields⟩
  exact ⟨rfl, mirrors.times.symm⟩

/-- Debouncers without timers that are alike otherwise mirror each other. -/
theorem Mirrors.of_timer_eq_none (free : debouncer.timer = none) :
    debouncer.Mirrors debouncer agenda opposite :=
  ⟨rfl, by rw [time?_eq_none free, time?_eq_none free]⟩

/-- Changes to the rest of the debouncers do not matter as long as they are the same. -/
theorem Mirrors.of_timers {changed : Debouncer τ ω}
    (mirrors : debouncer.Mirrors other agenda opposite) (kept : changed.timer = debouncer.timer) :
    changed.Mirrors { changed with timer := other.timer } agenda opposite := by
  refine ⟨rfl, ?_⟩
  have times := mirrors.times
  rw [time?, time?] at times ⊢
  rw [kept]
  exact times

variable [Instant τ] {id : TimerId} {time stamp : τ}

theorem Awaits.trailingEdge_eq (awaits : Awaits debouncer agenda id time stamp) (callback : κ)
    (now : τ) :
    debouncer.trailingEdge agenda callback now =
      debouncer.extendTimer agenda id time stamp now := by
  simp [Debouncer.trailingEdge, timerStatus?, awaits.timer, awaits.status, awaits.stamped]

theorem Minds.cancel_eq (minds : debouncer.Minds callback agenda)
    (held : debouncer.timer = some id) :
    Scheduler.cancel agenda id = (true, (agenda.cancel id).2) :=
  Prod.ext (minds.cancels held) rfl

theorem time?_startTimer (now : τ) :
    (debouncer.startTimer agenda callback now).debouncer.time?
        (debouncer.startTimer agenda callback now).scheduler =
      some (agenda.now + debouncer.firstDelay now) := by
  have added := agenda.pending?_add agenda.timers.length
    (agenda.now + debouncer.firstDelay now) callback
  rw [if_pos rfl] at added
  exact congrArg (Option.map Timer.executionTime) added

theorem Awaits.time?_reschedule (awaits : Awaits debouncer agenda id time stamp) (target : τ) :
    debouncer.time? (agenda.reschedule id target) = some target := by
  have pending := Agenda.pending?_of_status awaits.status
  rcases Option.map_eq_some_iff.mp pending with ⟨timer, pending, _⟩
  rw [Debouncer.time?, awaits.timer, Option.bind_some, Agenda.pending?_reschedule, if_pos rfl,
    pending]
  rfl

theorem Mirrors.startTimer (mirrors : debouncer.Mirrors other agenda opposite)
    (clocks : opposite.now = agenda.now) (now : τ) :
    (debouncer.startTimer agenda callback now).Mirrors
      (other.startTimer opposite mirrored now) := by
  obtain ⟨held, rfl⟩ : ∃ held, other = { debouncer with timer := held } := ⟨_, mirrors.fields⟩
  refine ⟨rfl, rfl, rfl, ?_⟩
  rw [time?_startTimer, time?_startTimer, clocks]
  rfl

theorem Mirrors.leadingEdge (mirrors : debouncer.Mirrors other agenda opposite) (now : τ) :
    (debouncer.leadingEdge agenda now).Mirrors (other.leadingEdge opposite now) := by
  obtain ⟨held, rfl⟩ : ∃ held, other = { debouncer with timer := held } := ⟨_, mirrors.fields⟩
  have soon : tooSoon { debouncer with timer := held } now = debouncer.tooSoon now := rfl
  have come : idle { debouncer with timer := held } now = debouncer.idle now := rfl
  have reached : maxIntervalReached { debouncer with timer := held } now =
      debouncer.maxIntervalReached now := rfl
  rw [Debouncer.leadingEdge, Debouncer.leadingEdge, soon, come, reached]
  split
  · exact ⟨rfl, rfl, mirrors.of_timers rfl⟩
  · split
    · exact ⟨rfl, rfl, mirrors.of_timers rfl⟩
    · exact ⟨rfl, rfl, mirrors.of_timers rfl⟩

section Timed

variable (mirrors : debouncer.Mirrors other agenda opposite)
variable (minds : debouncer.Minds callback agenda) (others : other.Minds mirrored opposite)

include mirrors minds others

theorem Mirrors.extendTimer {place : TimerId} (awaits : Awaits debouncer agenda id time stamp)
    (awaiting : Awaits other opposite place time stamp) (now : τ) :
    (debouncer.extendTimer agenda id time stamp now).Mirrors
      (other.extendTimer opposite place time stamp now) := by
  obtain ⟨held, rfl⟩ : ∃ held, other = { debouncer with timer := held } := ⟨_, mirrors.fields⟩
  have target : extension { debouncer with timer := held } stamp now =
      debouncer.extension stamp now := rfl
  rw [Debouncer.extendTimer, Debouncer.extendTimer, target, minds.cancel_eq awaits.timer,
    others.cancel_eq awaiting.timer]
  by_cases come : debouncer.extension stamp now ≤ now
  · rw [if_pos come, if_pos come]
    exact ⟨rfl, rfl, .of_timer_eq_none rfl⟩
  · rw [if_neg come, if_neg come]
    by_cases later : time < debouncer.extension stamp now
    · rw [if_pos later, if_pos later]
      exact ⟨rfl, rfl, rfl, (awaiting.time?_reschedule _).trans (awaits.time?_reschedule _).symm⟩
    · rw [if_neg later, if_neg later]
      exact ⟨rfl, rfl, mirrors.of_timers rfl⟩

theorem Mirrors.trailingEdge (now : τ) (clocks : opposite.now = agenda.now) :
    (debouncer.trailingEdge agenda callback now).Mirrors
      (other.trailingEdge opposite mirrored now) := by
  cases timed : debouncer.time? agenda with
  | none =>
      have free := minds.timer_eq_none_of_time? timed
      have freed := others.timer_eq_none_of_time? (mirrors.times.trans timed)
      have starts : (debouncer.startTimer agenda callback now).Mirrors
          (other.startTimer opposite mirrored now) := mirrors.startTimer clocks now
      simpa only [Debouncer.trailingEdge, free, freed] using starts
  | some time =>
      rcases minds.awaits_of_time? timed with ⟨id, stamp, awaits⟩
      rcases others.awaits_of_time? (mirrors.times.trans timed) with ⟨place, begun, awaiting⟩
      have stamped : other.leadingTimestamp = debouncer.leadingTimestamp := by
        rw [mirrors.fields]
      obtain rfl : begun = stamp :=
        Option.some.inj (awaiting.stamped.symm.trans (stamped.trans awaits.stamped))
      rw [awaits.trailingEdge_eq, awaiting.trailingEdge_eq]
      exact mirrors.extendTimer minds others awaits awaiting now

theorem Mirrors.timers_eq_none :
    debouncer.timer = none ∧ other.timer = none ∨
      ∃ id place, debouncer.timer = some id ∧ other.timer = some place := by
  cases timed : debouncer.time? agenda with
  | none =>
      exact .inl ⟨minds.timer_eq_none_of_time? timed,
        others.timer_eq_none_of_time? (mirrors.times.trans timed)⟩
  | some time =>
      rcases minds.awaits_of_time? timed with ⟨id, _, awaits⟩
      rcases others.awaits_of_time? (mirrors.times.trans timed) with ⟨place, _, awaiting⟩
      exact .inr ⟨id, place, awaits.timer, awaiting.timer⟩

theorem Mirrors.reset (clocks : opposite.now = agenda.now) :
    (debouncer.reset agenda).Mirrors (other.reset opposite) := by
  have timers := mirrors.timers_eq_none minds others
  obtain ⟨held, rfl⟩ : ∃ held, other = { debouncer with timer := held } := ⟨_, mirrors.fields⟩
  rcases timers with ⟨free, freed⟩ | ⟨id, place, timed, placed⟩
  · rw [Debouncer.reset, Debouncer.reset, free, freed]
    have clock : Scheduler.now opposite = Scheduler.now agenda := clocks
    simp only [clock]
    exact ⟨rfl, rfl, .of_timer_eq_none (by simp)⟩
  · rw [Debouncer.reset, Debouncer.reset, timed, placed]
    have clock : Scheduler.now (opposite.cancel place).2 = Scheduler.now (agenda.cancel id).2 :=
      (opposite.now_cancel place).trans (clocks.trans (agenda.now_cancel id).symm)
    simp only [minds.cancel_eq timed, others.cancel_eq placed, clock]
    exact ⟨rfl, rfl, .of_timer_eq_none (by simp)⟩

theorem Mirrors.flush : (debouncer.flush agenda).Mirrors (other.flush opposite) := by
  have timers := mirrors.timers_eq_none minds others
  obtain ⟨held, rfl⟩ : ∃ held, other = { debouncer with timer := held } := ⟨_, mirrors.fields⟩
  rcases timers with ⟨free, freed⟩ | ⟨id, place, timed, placed⟩
  · rw [Debouncer.flush, Debouncer.flush, free, freed]
    exact ⟨rfl, rfl, mirrors⟩
  · rw [Debouncer.flush, Debouncer.flush, timed, placed]
    simp only [minds.cancel_eq timed, others.cancel_eq placed]
    exact ⟨rfl, rfl, .of_timer_eq_none rfl⟩

theorem Mirrors.serve (clocks : opposite.now = agenda.now) (request : Request ω) :
    (debouncer.serve agenda callback request).Mirrors
      (other.serve opposite mirrored request) := by
  obtain ⟨held, rfl⟩ : ∃ held, other = { debouncer with timer := held } := ⟨_, mirrors.fields⟩
  cases request with
  | call work? =>
      rw [Debouncer.serve, Debouncer.serve, call, call]
      dsimp only
      split
      · exact ⟨rfl, rfl, mirrors⟩
      · next work supplied =>
          have bound : Mirrors { debouncer with work := some work } _ agenda opposite :=
            mirrors.of_timers rfl
          by_cases through : debouncer.settings.passthrough = true
          · rw [if_pos through, if_pos through]
            exact ⟨rfl, rfl, bound⟩
          · have clock : Scheduler.now opposite = Scheduler.now agenda := clocks
            rw [if_neg through, if_neg through, clock]
            by_cases edge : debouncer.settings.leading = true
            · rw [if_pos edge, if_pos edge]
              exact bound.leadingEdge _
            · rw [if_neg edge, if_neg edge]
              exact bound.trailingEdge (minds.rebind work) (others.rebind work) _ clocks
  | callNow =>
      rw [Debouncer.serve, Debouncer.serve, callNow, callNow]
      dsimp only
      split
      · exact ⟨rfl, rfl, mirrors⟩
      · exact ⟨rfl, rfl, mirrors⟩
  | reset => exact mirrors.reset minds others clocks
  | flush => exact mirrors.flush minds others

end Timed

omit [Instant τ] in
/-- After the same reply of the work the debouncers still mirror each other. -/
theorem Mirrors.finish (mirrors : debouncer.Mirrors other agenda opposite) (tail : Tail τ)
    (reply : Reply τ) :
    (debouncer.finish tail reply).1.Mirrors (other.finish tail reply).1 agenda opposite ∧
      (other.finish tail reply).2 = (debouncer.finish tail reply).2 := by
  obtain ⟨held, rfl⟩ : ∃ held, other = { debouncer with timer := held } := ⟨_, mirrors.fields⟩
  cases tail <;> cases reply <;> exact ⟨mirrors.of_timers rfl, rfl⟩

end Serving

end Debouncer

end Debounce
