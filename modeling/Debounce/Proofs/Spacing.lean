import Debounce.Proofs.Period
import Debounce.Proofs.Seconds
import Debounce.Proofs.Times

/-!
# The spacing of executions

In a run of calls and advances executions begin at least the least spacing apart. On the leading
edge a call is only let through when that much time has passed since the last one that was. On the
trailing edge the time of the pending timer is never less than that much after the call that
started it, and it started after every execution so far. All of this holds of every clock with
monotone sums, and so of double precision seconds.
-/

namespace Debounce

section Starts

variable {Op R τ : Type}

/-- The clock reading at which a work began to run, if the moment is one. -/
def Moment.start? : Moment Op R (Event τ) → Option τ
  | .event (.ran _ _ now _) => some now
  | _ => none

/-- The clock readings at which works began to run. -/
def starts (history : List (Moment Op R (Event τ))) : List τ := history.filterMap Moment.start?

@[simp] theorem starts_append (history moments : List (Moment Op R (Event τ))) :
    starts (history ++ moments) = starts history ++ starts moments :=
  List.filterMap_append

@[simp] theorem starts_began (op : Op) (depth : Nat) :
    starts [(.began op depth : Moment Op R (Event τ))] = [] := rfl

theorem starts_of_silent {moments : List (Moment Op R (Event τ))}
    (silent : ∀ moment ∈ moments, ¬ moment.IsExecution) : starts moments = [] := by
  rw [starts, List.filterMap_eq_nil_iff]
  intro moment member
  cases moment with
  | began | ended => rfl
  | event event =>
      cases event with
      | ran => exact absurd ⟨_, rfl, trivial⟩ (silent _ member)
      | executed | wasReset | timerStarted | timerMoved | timerFired | registered | handedOver
        | handOverFailed | workFailed => rfl

theorem starts_of_executes {Store Frame : Type} {effect : Effect Op R Store Frame (Event τ)}
    {cause : Cause} {work : Work Op R} {now : τ} (executes : effect.Executes cause work now)
    (op : Op) (depth : Nat) : starts (effect.moments op depth) = [now] := by
  rcases executes.moments op depth with ⟨earlier, name, context, moments, silent⟩
  rw [moments, starts_append, starts_of_silent silent]
  rfl

end Starts

/-! ## Pace -/

section Spaced

variable {τ : Type} [Instant τ]

/-- Executions began at the given instants, all of them in the past and far enough apart. -/
structure Spaced (interval : Interval) (instants : List τ) (now : τ) : Prop where
  clock : now ≤ now
  past : ∀ instant ∈ instants, instant ≤ now
  apart : instants.Pairwise fun earlier later => earlier + interval.begin.seconds ≤ later

variable {interval : Interval} {instants : List τ} {now next : τ}

theorem Spaced.later [Instant.Lawful τ] (spaced : Spaced interval instants now)
    (ahead : now ≤ next) : Spaced interval instants next where
  clock := Instant.Lawful.le_right ahead
  past instant member := Instant.Lawful.le_trans (spaced.past instant member) ahead
  apart := spaced.apart

theorem Spaced.start (spaced : Spaced interval instants now)
    (enough : ∀ instant ∈ instants, instant + interval.begin.seconds ≤ now) :
    Spaced interval (instants ++ [now]) now where
  clock := spaced.clock
  past instant member := by
    rcases List.mem_append.mp member with earlier | this
    · exact spaced.past instant earlier
    · exact List.mem_singleton.mp this ▸ spaced.clock
  apart := by
    refine List.pairwise_append.mpr ⟨spaced.apart, List.pairwise_singleton _ _, ?_⟩
    intro earlier member last this
    exact List.mem_singleton.mp this ▸ enough earlier member

end Spaced

/-- The instant at which a turn begins an execution, if it asks for one. -/
def Turn.starts {τ σ κ ω : Type} [Scheduler σ τ κ] (turn : Turn τ σ ω) : List τ :=
  match turn.demand with
  | .reply _ => []
  | .execute _ => [Scheduler.now turn.scheduler]

namespace Debouncer

variable {τ κ ω : Type} [Instant τ]

/-- The executions of a debouncer are spaced, and those to come will be: no execution began after
the beginning of the period, and the pending timer waits for the least spacing to pass. -/
structure Paced (settings : Settings) (interval : Interval) (debouncer : Debouncer τ ω)
    (agenda : Agenda τ κ) (instants : List τ) : Prop where
  settings : debouncer.settings = settings
  coherent : debouncer.Coherent agenda
  spaced : Spaced interval instants agenda.now
  after : debouncer.settings.leading = true ∨ debouncer.timer.isSome →
    ∃ stamp, debouncer.leadingTimestamp = some stamp ∧ ∀ instant ∈ instants, instant ≤ stamp
  due : ∀ id time stamp, Awaits debouncer agenda id time stamp →
    stamp ≤ stamp ∧ stamp + interval.begin.seconds ≤ time

/-- A period is open, and the least spacing has passed since its beginning. -/
structure Late (interval : Interval) (debouncer : Debouncer τ ω) (now : τ) : Prop where
  held : debouncer.timer.isSome
  passed : ∃ stamp, debouncer.leadingTimestamp = some stamp ∧
    stamp + interval.begin.seconds ≤ now

namespace Paced

variable {settings : Settings} {interval : Interval}
variable {debouncer : Debouncer τ ω} {agenda : Agenda τ κ} {instants : List τ} {callback : κ}
variable {work? : Option ω} {turn : Turn τ (Agenda τ κ) ω}

theorem new (bounds : settings.interval = some interval) (name : Value) {clock : τ}
    (comparable : clock ≤ clock) :
    (Debouncer.new settings name clock : Debouncer τ ω).Paced settings interval
      ({ now := clock } : Agenda τ κ) [] where
  settings := by simp [Debouncer.new]
  coherent := Coherent.new settings name
  spaced := ⟨comparable, by simp, List.Pairwise.nil⟩
  after edge := by
    have leads : settings.leading = true := by simpa [Debouncer.new] using edge
    simp [Debouncer.new, rewound, leads, Settings.passthrough, bounds]
  due id time stamp awaits := absurd awaits.timer (by simp [Debouncer.new])

theorem rebind (paced : debouncer.Paced settings interval agenda instants) (work : ω) :
    ({ debouncer with work := some work } : Debouncer τ ω).Paced settings interval agenda
      instants where
  settings := paced.settings
  coherent := paced.coherent.rebind work
  spaced := paced.spaced
  after := paced.after
  due id time stamp awaits := paced.due id time stamp ⟨awaits.timer, awaits.status, awaits.stamped⟩

theorem record (paced : debouncer.Paced settings interval agenda instants) (call : τ) :
    ({ debouncer with lastCall := some call } : Debouncer τ ω).Paced settings interval agenda
      instants where
  settings := paced.settings
  coherent := paced.coherent.record _
  spaced := paced.spaced
  after := paced.after
  due id time stamp awaits := paced.due id time stamp ⟨awaits.timer, awaits.status, awaits.stamped⟩

variable [Instant.Lawful τ]

/-- Executions are spaced when the least spacing has passed since the beginning of the period. -/
theorem spaces {stamp next : τ} (paced : debouncer.Paced settings interval agenda instants)
    (inRange : interval.begin.InRange)
    (kept : debouncer.settings.leading = true ∨ debouncer.timer.isSome)
    (stamped : debouncer.leadingTimestamp = some stamp) {instant : τ} (member : instant ∈ instants)
    (late : stamp ≤ stamp → stamp + interval.begin.seconds ≤ next) :
    instant + interval.begin.seconds ≤ next := by
  rcases paced.after kept with ⟨begun, sameStamp, before⟩
  obtain rfl := Option.some.inj (sameStamp.symm.trans stamped)
  have ordered := before instant member
  calc instant + interval.begin.seconds
    _ ≤ begun + interval.begin.seconds :=
      Instant.add_seconds_le ordered (Int.le_refl _) inRange inRange
    _ ≤ next := late (Instant.Lawful.le_right ordered)

/-- A call that finds the timer overdue comes when the least spacing has passed. -/
theorem overdue {id : TimerId} {time stamp : τ}
    (paced : debouncer.Paced settings interval agenda instants)
    (bounds : settings.interval = some interval) (inRange : interval.begin.InRange)
    (awaits : Awaits debouncer agenda id time stamp)
    (come : debouncer.extension stamp agenda.now ≤ agenda.now) :
    stamp + interval.begin.seconds ≤ agenda.now := by
  have sameBounds : debouncer.settings.interval = some interval := paced.settings ▸ bounds
  have comparable := (paced.due id time stamp awaits).1
  exact Instant.Lawful.le_trans (begin_le_extension sameBounds inRange comparable agenda.now) come

/-- A timer that is held fires when the least spacing has passed. -/
theorem fires_late {deadline : τ} {id : TimerId} {timer : Timer τ κ} {fired : Agenda τ κ}
    (paced : debouncer.Paced settings interval agenda instants)
    (found : agenda.fireNext? deadline = some (id, timer, fired)) :
    debouncer.Late interval fired.now := by
  rcases paced.coherent.timer_of_fireNext? found with ⟨held, _⟩
  rcases paced.coherent.awaits held with ⟨time, stamp, awaits⟩
  rcases Agenda.fireNext?_eq_some found with ⟨stored, _, _, rfl⟩
  rcases Agenda.status?_eq_some.mp awaits.status with ⟨_, sameStored, _, rfl⟩
  obtain rfl := Option.some.inj (stored.symm.trans sameStored)
  have late := (paced.due id _ stamp awaits).2
  refine ⟨by simp [held], stamp, awaits.stamped, Instant.Lawful.le_trans late ?_⟩
  exact Instant.le_later_right paced.spaced.clock (Instant.Lawful.le_right late)

/-- On the leading edge the least spacing has passed when a call is let through. -/
theorem leadingCall (paced : debouncer.Paced settings interval agenda instants)
    (bounds : settings.interval = some interval) (inRange : interval.begin.InRange)
    (edge : debouncer.settings.leading = true)
    (form : LeadingCall debouncer agenda agenda.now turn) :
    turn.debouncer.Paced settings interval turn.scheduler (instants ++ turn.starts) := by
  have sameBounds : debouncer.settings.interval = some interval := paced.settings ▸ bounds
  cases form with
  | ignored _ => simpa [recorded, Turn.starts] using paced.record agenda.now
  | executed late _ =>
      rcases paced.after (.inl edge) with ⟨stamp, stamped, _⟩
      have passed : ¬ agenda.now < stamp + interval.begin.seconds := by
        simpa [tooSoon, stamped, begin_eq sameBounds] using late
      have enough : ∀ instant ∈ instants, instant + interval.begin.seconds ≤ agenda.now := by
        intro instant member
        refine paced.spaces inRange (.inl edge) stamped member ?_
        intro comparable
        exact Instant.Lawful.le_of_not_lt paced.spaced.clock
          (Instant.Lawful.add_seconds comparable inRange) passed
      have spaced := paced.spaced.start enough
      exact
        { settings := paced.settings
          coherent := ⟨paced.coherent.holds, fun _ => rfl, paced.coherent.supplied,
            paced.coherent.trailing⟩
          spaced := spaced
          after := fun _ => ⟨agenda.now, rfl, spaced.past⟩
          due := fun id time stamp awaits => by
            have held : debouncer.timer = some id := awaits.timer
            have trailing := paced.coherent.trailing (by simp [held])
            simp [edge] at trailing }

/-- On the trailing edge the least spacing has passed when a call finds the timer overdue. -/
theorem trailingCall (paced : debouncer.Paced settings interval agenda instants)
    (bounds : settings.interval = some interval) (inRange : settings.InRange)
    (through : debouncer.settings.passthrough = false)
    (edge : debouncer.settings.leading = false) (supplied : debouncer.work.isSome)
    (form : TrailingCall debouncer agenda callback agenda.now turn) :
    turn.debouncer.Paced settings interval turn.scheduler (instants ++ turn.starts) := by
  have coherent := paced.coherent.trailingCall supplied through edge form
  have sameBounds : debouncer.settings.interval = some interval := paced.settings ▸ bounds
  have beginInRange := inRange.begin interval bounds
  cases form with
  | opened _ =>
      have delayed := add_begin_le_add_firstDelay sameBounds (paced.settings ▸ inRange)
        paced.spaced.clock agenda.now
      refine ⟨paced.settings, coherent, ?_, fun _ => ⟨agenda.now, rfl, ?_⟩, ?_⟩
      · simpa [startTimer, recorded, Turn.starts] using paced.spaced
      · simpa [startTimer, recorded, Turn.starts] using paced.spaced.past
      · rintro id time stamp ⟨held, status, stamped⟩
        obtain rfl : agenda.now = stamp := Option.some.inj stamped
        obtain rfl : (agenda.add (agenda.now + debouncer.firstDelay agenda.now) callback).1 = id :=
          Option.some.inj held
        obtain rfl : agenda.now + debouncer.firstDelay agenda.now = time := by
          simpa using (Agenda.status?_add agenda _ callback).symm.trans status
        exact ⟨paced.spaced.clock, delayed⟩
  | @overdue id time stamp awaits come cancelled =>
      have late := paced.overdue bounds beginInRange awaits come
      have enough : ∀ instant ∈ instants, instant + interval.begin.seconds ≤ agenda.now :=
        fun instant member => paced.spaces beginInRange (.inr (by simp [awaits.timer]))
          awaits.stamped member fun _ => late
      have spaced := paced.spaced.start enough
      exact
        { settings := paced.settings
          coherent := coherent
          spaced := by simpa [execute, Turn.starts] using spaced
          after := by simp [execute, edge]
          due := fun id time stamp awaits => absurd awaits.timer (by simp [execute]) }
  | overtaken awaits _ refused => simp [paced.coherent.cancels awaits.timer] at refused
  | @moved id time stamp awaits _ _ =>
      rcases paced.due _ _ _ awaits with ⟨comparable, _⟩
      refine ⟨paced.settings, coherent, ?_, ?_, ?_⟩
      · simpa [recorded, Turn.starts] using paced.spaced
      · simpa [recorded, Turn.starts] using paced.after
      · rintro other later begun ⟨held, status, stamped⟩
        obtain rfl := Option.some.inj (awaits.timer.symm.trans held)
        obtain rfl := Option.some.inj (awaits.stamped.symm.trans stamped)
        have same := (Agenda.status?_reschedule awaits.status).symm.trans status
        obtain rfl : debouncer.extension stamp agenda.now = later := by simpa using same
        exact ⟨comparable, begin_le_extension sameBounds beginInRange comparable agenda.now⟩
  | kept _ _ _ => simpa [recorded, Turn.starts] using paced.record agenda.now

/-- A call keeps the pace. -/
theorem served (paced : debouncer.Paced settings interval agenda instants)
    (bounds : settings.interval = some interval) (inRange : settings.InRange)
    (form : Served debouncer agenda callback (.call work?) turn) :
    turn.debouncer.Paced settings interval turn.scheduler (instants ++ turn.starts) := by
  cases form with
  | refusedCall _ => simpa [Turn.starts] using paced
  | passedOn _ through => simp [Settings.passthrough, paced.settings, bounds] at through
  | leading _ _ edge call =>
      exact (paced.rebind _).leadingCall bounds (inRange.begin interval bounds) edge call
  | trailing _ through edge call =>
      exact (paced.rebind _).trailingCall bounds inRange through edge rfl call

/-- The passing of time keeps the pace. -/
theorem arrive (paced : debouncer.Paced settings interval agenda instants) (deadline : τ) :
    debouncer.Paced settings interval (agenda.arrive deadline) instants where
  settings := paced.settings
  coherent := paced.coherent.arrive deadline
  spaced := paced.spaced.later (Instant.le_later_left paced.spaced.clock deadline)
  after := paced.after
  due id time stamp awaits := paced.due id time stamp ⟨awaits.timer, awaits.status, awaits.stamped⟩

/-- A timer that fires keeps the pace. -/
theorem fire {deadline : τ} {id : TimerId} {timer : Timer τ κ} {fired : Agenda τ κ}
    (paced : debouncer.Paced settings interval agenda instants)
    (inRange : interval.begin.InRange)
    (found : agenda.fireNext? deadline = some (id, timer, fired)) :
    (debouncer.fire fired id).debouncer.Paced settings interval fired
      (instants ++ [fired.now]) := by
  rcases paced.coherent.timer_of_fireNext? found with ⟨held, _⟩
  have coherent := paced.coherent.fire found
  have free := fire_timer fired held
  have edge := (paced.coherent.trailing (by simp [held])).2
  rcases (paced.fires_late found).passed with ⟨stamp, stamped, late⟩
  have enough : ∀ instant ∈ instants, instant + interval.begin.seconds ≤ fired.now :=
    fun instant member => paced.spaces inRange (.inr (by simp [held])) stamped member fun _ => late
  have ahead : agenda.now ≤ fired.now := by
    rcases Agenda.fireNext?_eq_some found with ⟨_, _, _, rfl⟩
    exact Instant.le_later_left paced.spaced.clock timer.executionTime
  exact
    { settings := (fire_settings id).trans paced.settings
      coherent := coherent
      spaced := (paced.spaced.later ahead).start enough
      after := by simp [free, edge]
      due := fun id time stamp awaits => absurd awaits.timer (by simp [free]) }

/-- On the trailing edge a call that executes comes when the least spacing has passed since the
period was opened. -/
theorem late_of_executes (paced : debouncer.Paced settings interval agenda instants)
    (bounds : settings.interval = some interval) (inRange : interval.begin.InRange)
    (edge : settings.leading = false) (form : Served debouncer agenda callback (.call work?) turn)
    {cause : Cause} (executes : turn.Executes cause) :
    debouncer.Late interval turn.scheduler.now := by
  rcases executes.demand with ⟨tail, demand⟩
  cases form with
  | refusedCall _ => cases demand
  | passedOn _ through => simp [Settings.passthrough, paced.settings, bounds] at through
  | leading _ _ leads _ => simp [paced.settings, edge] at leads
  | trailing _ _ _ call =>
      cases call with
      | opened _ | overtaken _ _ _ | moved _ _ _ | kept _ _ _ => cases demand
      | overdue awaits come _ =>
          have held := awaits.timer
          have late := (paced.rebind _).overdue bounds inRange awaits come
          exact ⟨by simpa using Option.isSome_of_eq_some held, _, awaits.stamped, by
            simpa [execute] using late⟩

end Paced

end Debouncer

/-! ## Runs -/

namespace DebouncerSession

variable {τ : Type} [Instant τ]

section Take

variable {debouncer : Debouncer τ (Work (Op τ) (Reply τ))} {agenda : Agenda τ Unit}
variable {request : Request (Work (Op τ) (Reply τ))}
variable {turn : Turn τ (Agenda τ Unit) (Work (Op τ) (Reply τ))}

theorem starts_take_of_executes {cause : Cause} {work : Work (Op τ) (Reply τ)}
    (executes : turn.Executes cause) (supplied : turn.debouncer.work = some work)
    (frame : Tail τ → Frame τ) (op : Op τ) (depth : Nat) :
    starts ((take turn frame).moments op depth) = [turn.scheduler.now] :=
  starts_of_executes (executes.effect supplied) op depth

/-- The instants that the effect of a turn records are those at which it begins an execution. -/
theorem starts_take (coherent : debouncer.Coherent agenda)
    (form : debouncer.Served agenda () request turn) (frame : Tail τ → Frame τ) (op : Op τ)
    (depth : Nat) : starts ((take turn frame).moments op depth) = turn.starts := by
  rcases form.executes_or_replies with ⟨cause, executes⟩ | replies
  · obtain ⟨work, supplied⟩ := form.work_of_executes executes fun _ held _ =>
      coherent.supplied (by simp [held])
    rcases executes.demand with ⟨tail, demand⟩
    rw [starts_take_of_executes executes supplied, Turn.starts, demand]
    rfl
  · rcases replies.demand with ⟨reply, demand⟩
    have silent : (take turn frame).Silent := replies.silent
    rw [starts_of_silent fun moment => silent.moments, Turn.starts, demand]

end Take

variable [Instant.Lawful τ] {settings : Settings} {interval : Interval} {store : Store τ}
variable {outcome : Outcome τ} {instants : List τ}

omit [Instant τ] [Instant.Lawful τ] in
@[simp] theorem starts_answer (reply : Reply τ) (op : Op τ) (depth : Nat) :
    starts ((answer store reply).moments op depth) = [] := rfl

/-- A section that serves no request keeps the pace. -/
theorem Passage.paced (passage : Passage store outcome)
    (paced : store.debouncer.Paced settings interval store.agenda instants)
    (inRange : interval.begin.InRange) (op : Op τ) (depth : Nat) :
    outcome.store.debouncer.Paced settings interval outcome.store.agenda
      (instants ++ starts (outcome.moments op depth)) := by
  cases passage with
  | answered => rwa [starts_answer, List.append_nil]
  | recorded =>
      rw [starts_answer, List.append_nil]
      exact paced.record _
  | arrived _ =>
      rw [starts_answer, List.append_nil]
      exact paced.arrive _
  | fired found =>
      have held := (paced.coherent.timer_of_fireNext? found).1
      obtain ⟨work, supplied⟩ :=
        Option.isSome_iff_exists.mp (paced.coherent.supplied (by simp [held]))
      rw [starts_take_of_executes (store.firing_executes _ _ _) (by simpa [Store.firing])]
      simpa [take, Store.firing] using paced.fire inRange found

/-- In every state of a run of calls and advances the executions so far keep the pace. -/
theorem paced_of_reaches {name : Value} {clock : τ} {script : Script (Op τ) (Reply τ)}
    {state : State τ} (bounds : settings.interval = some interval) (inRange : settings.InRange)
    (comparable : clock ≤ clock)
    (reaches : machine.Reaches (State.initial settings name clock script) state)
    (plain : ∀ op depth, .began op depth ∈ state.trace → op.isPlain = true) :
    state.store.debouncer.Paced settings interval state.store.agenda (starts state.trace) := by
  refine keeps reaches
    (fun store history => (∀ op depth, .began op depth ∈ history → op.isPlain = true) →
      store.debouncer.Paced settings interval store.agenda (starts history))
    ?_ ?_ ?_ ?_ plain
  · intro op depth store history other paced plain
    have before := paced fun op depth member => plain op depth (List.mem_append_left _ member)
    simpa using before
  · intro request depth store history paced plain
    have before := paced fun op depth member => plain op depth (List.mem_append_left _ member)
    rcases Op.call_of_isPlain (plain (.request request) depth (by simp)) with ⟨work?, rfl⟩
    have form := Debouncer.served_serve store.debouncer store.agenda () (.call work?)
    have after := before.served bounds inRange form
    rw [List.append_cons, starts_append, starts_append, start, starts_take before.coherent form]
    simpa [take] using after
  · intro op depth store outcome history passage paced plain
    have before := paced fun op depth member => plain op depth (List.mem_append_left _ member)
    rw [starts_append]
    exact passage.paced before (inRange.begin interval bounds) op depth
  · intro _
    exact Debouncer.Paced.new bounds name comparable

/-- On the trailing edge a step of a run of calls and advances records no execution, or it begins
one when the least spacing has passed since the period was opened. -/
theorem late_or_silent {state next : State τ} (bounds : settings.interval = some interval)
    (inRange : interval.begin.InRange) (edge : settings.leading = false)
    (paced : state.store.debouncer.Paced settings interval state.store.agenda instants)
    (stepped : machine.step? state = some next)
    (plain : ∀ op depth, .began op depth ∈ next.trace → op.isPlain = true) :
    (∃ cause work now, machine.Executes cause work now state next ∧
        state.store.debouncer.Late interval now) ∨
      ∃ moments, next.trace = state.trace ++ moments ∧
        ∀ moment ∈ moments, ¬ moment.IsExecution := by
  have passed (outcome : Outcome τ) (passage : Passage state.store outcome) : outcome.Silent ∨
      ∃ cause work now, outcome.Executes cause work now ∧
        state.store.debouncer.Late interval now := by
    cases passage with
    | answered | recorded | arrived _ => exact .inl (by simp [Effect.Silent, answer])
    | fired found =>
        have late := paced.fires_late found
        rcases Option.isSome_iff_exists.mp (paced.coherent.supplied late.held) with ⟨work, supplied⟩
        exact .inr ⟨_, work, _,
          (state.store.firing_executes _ _ _).effect (by simpa [Store.firing]), late⟩
  refine Machine.executes_or_silent (fun _ now _ => state.store.debouncer.Late interval now) ?_
    (fun frame reply _ => passed _ (passage_resume frame reply state.store)) stepped
  intro op rest script
  cases asks : Requesting.request? op with
  | none => exact passed _ (passage_start op state.store asks)
  | some request =>
      obtain rfl := Op.eq_of_request? asks
      have recorded := (Machine.start_of_step? script stepped).2
      obtain ⟨work?, rfl⟩ :=
        Op.call_of_isPlain (plain (.request request) state.stack.length (by simp [recorded]))
      have form :=
        Debouncer.served_serve state.store.debouncer state.store.agenda () (.call work?)
      rcases form.executes_or_replies with ⟨cause, executes⟩ | replies
      · have late := paced.late_of_executes bounds inRange edge form executes
        obtain ⟨work, supplied⟩ := form.work_of_executes executes fun _ held _ =>
          paced.coherent.supplied (by simp [held])
        have begins : (take (state.store.debouncer.serve state.store.agenda () (.call work?))
            Frame.serving).Executes cause work _ := executes.effect supplied
        exact .inr ⟨cause, work, _, begins, late⟩
      · exact .inl replies.silent

/-- In a run of calls and advances executions begin at least the least spacing apart. On the
trailing edge an execution moreover begins no earlier than the least spacing after the call that
opened its period. -/
theorem executions_begin_apart (settings : Settings) (interval : Interval) (name : Value)
    (clock : τ) (script : Script (Op τ) (Reply τ)) (state : State τ)
    (bounds : settings.interval = some interval) (inRange : settings.InRange)
    (comparable : clock ≤ clock)
    (reaches : machine.Reaches (State.initial settings name clock script) state)
    (plain : ∀ op depth, .began op depth ∈ state.trace → op.isPlain = true) :
    (starts state.trace).Pairwise (fun earlier later => earlier + interval.begin.seconds ≤ later) ∧
    (settings.leading = false → ∀ next, machine.step? state = some next →
      (∀ op depth, .began op depth ∈ next.trace → op.isPlain = true) →
      (∃ cause work now, machine.Executes cause work now state next ∧
        ∃ stamp, OpenedAt (State.initial settings name clock script) state stamp ∧
          stamp + interval.begin.seconds ≤ now) ∨
      ∃ moments, next.trace = state.trace ++ moments ∧
        ∀ moment ∈ moments, ¬ moment.IsExecution) := by
  have paced := paced_of_reaches bounds inRange comparable reaches plain
  constructor
  · exact paced.spaced.apart
  intro edge next stepped stillPlain
  refine (late_or_silent bounds (inRange.begin interval bounds) edge paced stepped
    stillPlain).imp_left ?_
  rintro ⟨cause, work, now, executes, held, stamp, stamped, late⟩
  rcases openedAt_of_reaches reaches plain held with ⟨begun, sameStamp, opened⟩
  obtain rfl := Option.some.inj (sameStamp.symm.trans stamped)
  exact ⟨cause, work, now, executes, begun, opened, late⟩

/-- A work that calls its debouncer again on its first run. -/
def repeating : Work (Op Float) (Reply Float) where
  id := [0]
  name := "repeating"
  body _ := .runs [0] fun count =>
    if count = 1 then .perform (.request (.call none)) else .done (.ok .nothing)

/-- The second execution is due to a call that the first one made. -/
theorem executions_begin_apart_of_two :
    let first := State.initial fiveSeconds .null 0
      (.before [.request (.call (some repeating)), .advance (.ok 20)] (.done (.ok .nothing)))
    let state := machine.run 4 first
    fiveSeconds.InRange ∧ machine.Reaches first state ∧
      ∃ next, machine.step? state = some next ∧ starts next.trace = [5, 10] ∧
        (5 : Float) + (Duration.ofSeconds 5).seconds ≤ 10 ∧
        ∃ cause work now, machine.Executes cause work now state next ∧
          ∃ stamp, OpenedAt first state stamp ∧ stamp + (Duration.ofSeconds 5).seconds ≤ now := by
  intro first state
  have inRange : fiveSeconds.InRange := by
    constructor
    · intro interval bounds
      obtain rfl := Option.some.inj bounds
      decide
    · intro interval last bounds limit
      obtain rfl := Option.some.inj bounds
      cases limit
    · intro idle given
      cases given
  have reaches := Machine.reaches_run machine 4 first
  have comparable : (0 : Float) ≤ 0 := by decide +kernel
  have early : starts state.trace = [5] := by decide +kernel
  have both : (machine.step? state).map (fun next => starts next.trace) = some [5, 10] := by
    decide +kernel
  have checked : (machine.step? state).all (fun next => next.trace.all fun
      | .began op _ => op.isPlain
      | .event _ | .ended _ _ _ => true) = true := by decide +kernel
  rcases Option.map_eq_some_iff.mp both with ⟨next, stepped, started⟩
  rw [stepped] at checked
  have plainNext : ∀ op depth, .began op depth ∈ next.trace → op.isPlain = true :=
    fun op depth member => List.all_eq_true.mp checked (.began op depth) member
  have grows := (Machine.step_of_step? stepped).record_grows
  have plain : ∀ op depth, .began op depth ∈ state.trace → op.isPlain = true :=
    fun op depth member => plainNext op depth (grows.subset member)
  have apart := (executions_begin_apart fiveSeconds _ _ _ _ next rfl inRange comparable
    (reaches.step stepped) plainNext).1
  rw [started] at apart
  refine ⟨inRange, reaches, next, stepped, started, by simpa using apart, ?_⟩
  refine ((executions_begin_apart fiveSeconds _ _ _ _ state rfl inRange comparable reaches
    plain).2 rfl next stepped plainNext).resolve_right ?_
  rintro ⟨moments, recorded, silent⟩
  rw [recorded, starts_append, starts_of_silent silent, early] at started
  simp at started

end DebouncerSession

end Debounce
