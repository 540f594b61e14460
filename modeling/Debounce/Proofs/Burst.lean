import Debounce.Proofs.ClosedForm
import Debounce.Proofs.Spacing

/-!
# Executions and bursts

Calls that follow each other within the idle time make a burst, and on the trailing edge the work
does not run in the middle of one: it waits until the idle time has passed since the last call, or
until the end of the interval is reached. The two latest calls may belong to one period, where the
second one moves the timer, or to two, where the timer of the second one starts with the idle time.
Both cases are read off the closed form of the execution time.
-/

namespace Debounce

section Burst

/-- The call that opened the last period. -/
def latestOpening? {τ : Type} (notes : List (Note τ)) : Option (Call τ) :=
  ((calls notes).filter Call.opened).getLast?

/-- The last two instants are closer together than the idle time, by more than a microsecond. -/
def Burst (idle : Duration) (instants : List Rat) (latest : Rat) : Prop :=
  ∃ earlier previous, instants = earlier ++ [previous, latest] ∧
    latest - previous < idle.seconds - 1 / 1000000

/-- An instant outside bursts: if the last two calls belong to a burst, then the idle time has passed
since the last one, or the end of the interval since the call that opened the last period. -/
def Spares (interval : Interval) (idle : Duration) (notes : List (Note Rat)) (instant : Rat) :
    Prop :=
  ∀ latest, Burst idle (instants notes) latest →
    latest + idle.seconds ≤ instant ∨
      ∃ last opening, interval.limit? = some last ∧ latestOpening? notes = some opening ∧
        opening.instant + last.seconds ≤ instant

theorem Period.latestOpening? {τ : Type} {notes before : List (Note τ)} {opening : Call τ}
    {since : List (Call τ)} (period : Period notes before opening since) :
    Debounce.latestOpening? notes = some opening := by
  have continued : since.filter Call.opened = [] := by
    rw [List.filter_eq_nil_iff]
    intro call member
    simp [(period.continued call member).1]
  have opens : [opening].filter Call.opened = [opening] := by simp [period.opened]
  rw [Debounce.latestOpening?, period.notes, List.append_cons, calls_append, calls_append,
    calls_map, List.filter_append, List.filter_append, continued, List.append_nil, calls_call,
    opens, List.getLast?_concat]

variable {settings : Settings} {interval : Interval} {idle : Duration} {previous latest : Rat}

/-- A call of a burst asks for the idle time. -/
theorem asked_of_burst (given : settings.idleTime = some idle)
    (close : latest - previous < idle.seconds - 1 / 1000000) :
    asked settings previous [latest] = [latest + idle.seconds] := by
  have far : 1 / 1000000 < idle.seconds - (latest - previous) := by grind
  have apart : Instant.near (latest - previous) idle.seconds = false := by
    change decide ((idle.seconds - (latest - previous)).abs ≤ 1 / 1000000) = false
    rw [decide_eq_false_iff_not, Rat.not_le, Rat.abs, if_pos (by grind)]
    exact far
  rw [asked, given]
  simp [spread, apart]

/-- The time that a call of a burst asks for is reached, unless the cap comes before it. -/
theorem burst_le_capped (given : settings.idleTime = some idle)
    (close : latest - previous < idle.seconds - 1 / 1000000) (cap? : Option Rat) (least : Rat)
    (earlier : List Rat) :
    let time := Instant.capped cap?
      (Instant.latest least (earlier ++ asked settings previous [latest]))
    latest + idle.seconds ≤ time ∨ ∃ cap, cap? = some cap ∧ cap ≤ time := by
  intro time
  have reached : latest + idle.seconds ≤
      Instant.latest least (earlier ++ asked settings previous [latest]) := by
    rw [asked_of_burst given close, Instant.latest_append]
    exact Instant.le_later_right Rat.le_refl Rat.le_refl
  cases cap? with
  | none => exact .inl reached
  | some cap =>
      by_cases early : cap < Instant.latest least (earlier ++ asked settings previous [latest])
      · have capped : time = cap := if_pos early
        exact .inr ⟨cap, rfl, capped ▸ Rat.le_refl⟩
      · have free : time = Instant.latest least (earlier ++ asked settings previous [latest]) :=
          if_neg early
        exact .inl (free ▸ reached)

/-- The last instant of a period and the one before it. -/
theorem burst_since {before earlier since : List Rat} {opening last : Rat}
    (burst : before ++ opening :: (since ++ [last]) = earlier ++ [previous, latest]) :
    previous = since.getLast?.getD opening ∧ latest = last := by
  rw [List.append_cons earlier previous [latest], ← List.cons_append, ← List.append_assoc] at burst
  rcases List.append_inj' burst rfl with ⟨split, same⟩
  have ends : (before ++ opening :: since).getLast? = some previous := by simp [split]
  rw [List.getLast?_append, List.getLast?_cons, Option.some_or] at ends
  exact ⟨(Option.some.inj ends).symm, (List.singleton_inj.mp same).symm⟩

/-- The closed form of the execution time lies outside bursts. -/
theorem spares_closedForm {notes before : List (Note Rat)} {opening : Call Rat}
    {since : List (Call Rat)} (period : Period notes before opening since)
    (given : settings.idleTime = some idle) :
    Spares interval idle notes
      (closedForm settings interval (instants before) opening.instant
        (since.map Call.instant)) := by
  rintro latest ⟨earlier, previous, burst, close⟩
  rw [period.instants] at burst
  rcases List.eq_nil_or_concat since with rfl | ⟨rest, call, rfl⟩
  · -- The period has just been opened, and the call before belongs to an earlier one.
    left
    rw [List.map_nil, List.append_cons earlier previous [latest]] at burst
    rcases List.append_inj' burst rfl with ⟨split, same⟩
    obtain rfl := List.singleton_inj.mp same
    have near : ∃ call ∈ instants before, opening.instant - call < idle.seconds := by
      refine ⟨previous, by simp [split], ?_⟩
      grind
    have delayed : firstSpan settings interval (instants before) opening.instant =
        Instant.later interval.begin.seconds idle.seconds := by
      rw [firstSpan, given]
      exact if_pos near
    have longer : (idle.seconds : Rat) ≤ Instant.later interval.begin.seconds idle.seconds :=
      Instant.le_later_right Rat.le_refl Rat.le_refl
    calc opening.instant + idle.seconds
      _ ≤ opening.instant + firstSpan settings interval (instants before) opening.instant := by
        rw [delayed]
        grind
      _ ≤ closedForm settings interval (instants before) opening.instant [] :=
        Instant.le_later_left Rat.le_refl _
  · -- The call has moved the timer of its own period.
    rw [List.concat_eq_append, List.map_append] at burst ⊢
    rcases burst_since burst with ⟨recorded, rfl⟩
    have capped : ∀ time : Rat, time ≤ Instant.later
        (opening.instant + firstSpan settings interval (instants before) opening.instant) time :=
      fun time => Instant.le_later_right Rat.le_refl Rat.le_refl
    have waits := burst_le_capped given close
      (interval.limit?.map fun last => opening.instant + last.seconds)
      (opening.instant + interval.begin.seconds)
      (asked settings opening.instant (rest.map Call.instant))
    rw [recorded, ← asked_append] at waits
    rcases waits with reached | ⟨cap, limited, reached⟩
    · exact .inl (Rat.le_trans reached (capped _))
    · rcases Option.map_eq_some_iff.mp limited with ⟨last, limit, rfl⟩
      exact .inr ⟨last, opening, limit, period.latestOpening?, Rat.le_trans reached (capped _)⟩

theorem Spares.later {notes : List (Note Rat)} {instant next : Rat}
    (spares : Spares interval idle notes instant) (ahead : instant ≤ next) :
    Spares interval idle notes next := by
  intro latest burst
  rcases spares latest burst with settled | ⟨last, opening, limit, opened, reached⟩
  · exact .inl (Rat.le_trans settled ahead)
  · exact .inr ⟨last, opening, limit, opened, Rat.le_trans reached ahead⟩

end Burst

/-- On the trailing edge a call that runs the work has found the time of its period come. -/
theorem Debouncer.Served.overdue_of_executes {τ κ ω : Type} [Instant τ] {debouncer : Debouncer τ ω}
    {agenda : Agenda τ κ} {callback : κ} {work? : Option ω} {turn : Turn τ (Agenda τ κ) ω}
    {cause : Cause} (debounced : debouncer.settings.passthrough = false)
    (edge : debouncer.settings.leading = false)
    (form : debouncer.Served agenda callback (.call work?) turn)
    (executes : turn.Executes cause) :
    ∃ work id time stamp, work?.or debouncer.work = some work ∧
      Debouncer.Awaits debouncer agenda id time stamp ∧
      debouncer.extension stamp agenda.now ≤ agenda.now ∧
      turn.call agenda.now = ⟨agenda.now, false, true⟩ := by
  rcases executes.demand with ⟨tail, demand⟩
  cases form with
  | refusedCall _ => cases demand
  | passedOn _ through => simp [debounced] at through
  | leading _ _ leads _ => simp [edge] at leads
  | @trailing _ work _ found _ _ call =>
      cases call with
      | opened _ | overtaken _ _ _ | moved _ _ _ | kept _ _ _ => cases demand
      | @overdue id time stamp awaits come _ =>
          exact ⟨work, id, time, stamp, found, ⟨awaits.timer, awaits.status, awaits.stamped⟩,
            come, rfl⟩

/-! ## Runs -/

namespace DebouncerSession

variable {settings : Settings} {interval : Interval} {idle : Duration}

/-- The operation makes no other request than a call or a reset. -/
def Op.callsOrResets {τ : Type} : Op τ → Bool
  | .request (.call _) | .request .reset => true
  | .request .callNow | .request .flush => false
  | .advance _ | .now | .policy | .text => true

namespace Timed

variable {debouncer : Debouncer Rat (Work (Op Rat) (Reply Rat))} {agenda : Agenda Rat Unit}
variable {store : Store Rat} {notes : List (Note Rat)}

/-- A timer does not fire in the middle of a burst. -/
theorem spares_fired {deadline : Rat} {id : TimerId} {timer : Timer Rat Unit}
    {next : Agenda Rat Unit} (timed : Timed settings interval debouncer agenda notes)
    (given : settings.idleTime = some idle)
    (found : agenda.fireNext? deadline = some (id, timer, next)) :
    Spares interval idle notes next.now := by
  have held := (timed.coherent.timer_of_fireNext? found).1
  rcases timed.coherent.awaits held with ⟨time, stamp, awaits⟩
  rcases Agenda.fireNext?_eq_some found with ⟨stored, _, _, rfl⟩
  rcases Agenda.status?_eq_some.mp awaits.status with ⟨other, same, _, rfl⟩
  obtain rfl := Option.some.inj (stored.symm.trans same)
  rcases timed.timed id _ stamp awaits with ⟨before, opening, since, period, rfl, _, formula⟩
  apply (spares_closedForm period given).later
  exact Rat.le_trans formula.2 (Instant.le_later_right Rat.le_refl Rat.le_refl)

/-- A call does not run the work in the middle of a burst to which it belongs. -/
theorem spares_overdue {id : TimerId} {time stamp : Rat} (call : Call Rat)
    (timed : Timed settings interval debouncer agenda notes)
    (bounds : settings.interval = some interval) (given : settings.idleTime = some idle)
    (awaits : Debouncer.Awaits debouncer agenda id time stamp)
    (come : debouncer.extension stamp agenda.now ≤ agenda.now)
    (made : call.instant = agenda.now) (continued : call.opened = false) :
    Spares interval idle (notes ++ [.call call]) agenda.now := by
  rintro latest ⟨earlier, previous, burst, close⟩
  rw [instants_append, instants_call, made, List.append_cons earlier previous [latest]] at burst
  rcases List.append_inj' burst rfl with ⟨split, same⟩
  obtain rfl := List.singleton_inj.mp same
  have last : (instants notes).getLast? = some previous := by simp [split]
  have before := (timed.past previous last).1
  obtain rfl := timed.policy
  rw [Debouncer.extension_eq_capped bounds,
    wanted_eq_latest bounds (timed.recorded.trans last)] at come
  rcases burst_le_capped given close (interval.limit?.map fun last => stamp + last.seconds)
    (stamp + interval.begin.seconds) [] with reached | ⟨cap, limited, reached⟩
  · -- The idle time is positive, so the call cannot have waited for it.
    grind
  · rcases Option.map_eq_some_iff.mp limited with ⟨last, limit, rfl⟩
    rcases timed.timed id time stamp awaits with ⟨before, opening, since, period, rfl, _, _⟩
    have opened : latestOpening? (notes ++ [.call call]) = some opening := by
      have unopened : [call].filter Call.opened = [] := by simp [continued]
      rw [← period.latestOpening?, latestOpening?, latestOpening?, calls_append, calls_call,
        List.filter_append, unopened, List.append_nil]
    exact .inr ⟨last, opening, limit, opened, Rat.le_trans reached come⟩

/-- A call runs no work, or it runs it outside bursts. -/
theorem spares_call (timed : Timed settings interval store.debouncer store.agenda notes)
    (bounds : settings.interval = some interval) (edge : settings.leading = false)
    (given : settings.idleTime = some idle) (work? : Option (Work (Op Rat) (Reply Rat))) :
    (start (.request (.call work?)) store).Silent ∨ ∃ cause work now,
      (start (.request (.call work?)) store).Executes cause work now ∧
        Spares interval idle (notes ++ note (.request (.call work?)) store) now := by
  have debounced : store.debouncer.settings.passthrough = false := by
    simp [Settings.passthrough, timed.policy, bounds]
  have trailing : store.debouncer.settings.leading = false := timed.policy ▸ edge
  have form := Debouncer.served_serve store.debouncer store.agenda () (.call work?)
  rcases form.executes_or_replies with ⟨cause, executes⟩ | replies
  · right
    rcases form.overdue_of_executes debounced trailing executes with
      ⟨work, id, time, stamp, found, awaits, come, called⟩
    rw [note_call found, called]
    have spares := spares_overdue ⟨store.agenda.now, false, true⟩ timed bounds given awaits come rfl
      rfl
    have begins : (take (store.debouncer.serve store.agenda () (.call work?))
        Frame.serving).Executes cause work _ := executes.effect (form.work.trans found)
    rw [Agenda.scheduler_now, form.now] at begins
    exact ⟨cause, work, _, begins, spares⟩
  · exact .inl replies.silent

end Timed

/-- In a calm run of calls, resets and advances on the trailing edge with exact seconds, a step
records no execution, or it begins one that is not in the middle of a burst: if the two latest calls,
of one period or of two, are closer together than the idle time by more than a microsecond, then the
execution begins when the idle time has passed since the last call, or when the end of the interval
is reached. -/
theorem executions_spare_bursts (settings : Settings) (interval : Interval) (idle : Duration)
    (name : Value) (clock : Rat) (script : Script (Op Rat) (Reply Rat)) (state next : State Rat)
    (notes : List (Note Rat)) (bounds : settings.interval = some interval)
    (inRange : settings.InRange) (edge : settings.leading = false)
    (given : settings.idleTime = some idle)
    (noted : machine.Noted note (State.initial settings name clock script) state notes)
    (calm : machine.Calm (State.initial settings name clock script) state)
    (stepped : machine.step? state = some next)
    (plain : ∀ op depth, .began op depth ∈ next.trace → op.callsOrResets = true) :
    (∃ cause work now, machine.Executes cause work now state next ∧
        Spares interval idle (notes ++ state.noted note) now) ∨
      ∃ moments, next.trace = state.trace ++ moments ∧
        ∀ moment ∈ moments, ¬ moment.IsExecution := by
  have coherent := coherent_of_reaches noted.reaches
  rcases keeps_calm_frames noted calm rfl (Timed settings interval)
    (fun request store notes timed => timed.served bounds inRange edge request)
    (fun debouncer agenda deadline notes _ timed => timed.arrived deadline)
    (fun debouncer agenda deadline id timer next notes found timed => timed.fired found)
    (.new name edge Rat.le_refl) with ⟨frame?, frames, timed⟩
  have passed (outcome : Outcome Rat) (passage : Passage state.store outcome) : outcome.Silent ∨
      ∃ cause work now, outcome.Executes cause work now ∧ Spares interval idle notes now := by
    cases passage with
    | answered | recorded | arrived _ => exact .inl (by simp [Effect.Silent, answer])
    | fired found =>
        have held := (coherent.timer_of_fireNext? found).1
        rcases Option.isSome_iff_exists.mp (coherent.supplied (by simp [held])) with
          ⟨work, supplied⟩
        exact .inr ⟨_, work, _,
          (state.store.firing_executes _ _ _).effect (by simpa [Store.firing]),
          timed.spares_fired given found⟩
  refine Machine.executes_or_silent
    (fun _ now _ => Spares interval idle (notes ++ state.noted note) now) ?_ ?_ stepped
  · intro op rest script
    have seen : state.noted note = note op state.store := by simp [Config.noted, script]
    rw [seen]
    cases asks : Requesting.request? op with
    | none =>
        rw [note_of_other asks, List.append_nil]
        exact passed _ (passage_start op state.store asks)
    | some request =>
        obtain rfl := Op.eq_of_request? asks
        have recorded := (Machine.start_of_step? script stepped).2
        have allowed := plain (.request request) state.stack.length (by simp [recorded])
        cases request with
        | callNow | flush => cases allowed
        | reset => exact .inl Debouncer.reset_replies.silent
        | call work? =>
            have outermost := Machine.stack_of_isCalm (calm.at_last noted.reaches) script
            obtain rfl : frame? = none := by simpa [outermost] using frames.symm
            exact timed.spares_call bounds edge given work?
  · intro frame reply script
    have seen : state.noted note = [] := by simp [Config.noted, script]
    rw [seen, List.append_nil]
    exact passed _ (passage_resume frame reply state.store)

/-- A period is opened one second after the call of an earlier period, and the work waits for the
idle time of ten seconds. -/
theorem executions_spare_bursts_of_two :
    let first := State.initial (oneToTwo false) .null (0 : Rat)
      (.before
        [.request (.call (some (.resting [0]))), .advance (.ok 1), .request (.call none),
          .advance (.ok 20)]
        (.done (.ok .nothing)))
    let state := machine.run 4 first
    let notes := machine.notes note 4 first
    (oneToTwo false).InRange ∧ machine.Noted note first state notes ∧ machine.Calm first state ∧
      Burst (.ofSeconds 10) (instants (notes ++ state.noted note)) 1 ∧
      ∃ next, machine.step? state = some next ∧ starts next.trace = [1, 11] ∧
        ∃ cause work now, machine.Executes cause work now state next ∧
          Spares .oneToTwo (.ofSeconds 10) (notes ++ state.noted note) now := by
  intro first state notes
  have noted := Machine.noted_run machine note 4 first
  have ends : machine.endsCalmly 8 first = true := by decide +kernel
  have calm := Machine.calm_of_endsCalmly ends state
  have made : instants (notes ++ state.noted note) = [0, 1] := by decide +kernel
  have burst : Burst (.ofSeconds 10) (instants (notes ++ state.noted note)) 1 := by
    rw [made]
    exact ⟨[], 0, rfl, by decide +kernel⟩
  have early : starts state.trace = [1] := by decide +kernel
  have both : (machine.step? state).map (fun next => starts next.trace) = some [1, 11] := by
    decide +kernel
  have checked : (machine.step? state).all (fun next => next.trace.all fun
      | .began op _ => op.callsOrResets
      | .event _ | .ended _ _ _ => true) = true := by decide +kernel
  rcases Option.map_eq_some_iff.mp both with ⟨next, stepped, started⟩
  rw [stepped] at checked
  have plain : ∀ op depth, .began op depth ∈ next.trace → op.callsOrResets = true :=
    fun op depth member => List.all_eq_true.mp checked (.began op depth) member
  refine ⟨oneToTwo_inRange false, noted, calm, burst, next, stepped, started, ?_⟩
  refine (executions_spare_bursts (oneToTwo false) .oneToTwo (.ofSeconds 10) _ _ _ state next notes
    rfl (oneToTwo_inRange false) rfl rfl noted calm stepped plain).resolve_right ?_
  rintro ⟨moments, recorded, silent⟩
  rw [recorded, starts_append, starts_of_silent silent, early] at started
  simp at started

end DebouncerSession

end Debounce
