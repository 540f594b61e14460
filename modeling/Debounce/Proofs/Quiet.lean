import Debounce.Proofs.Execution
import Mathlib.Order.Filter.AtTopBot.Basic

/-!
# Quiet works

A quiet work may look at the clock, and it returns. An operation that runs quiet works can be
followed from the effects of its sections alone: where a section ends by running such a work, the
next one begins with what the work returns.
-/

namespace Debounce

variable {Op R Store Frame τ : Type}

/-! ## Works -/

/-- The only thing that a quiet work does. -/
inductive Glance where
  /-- Reads the clock. -/
  | now

/-- A work that does nothing to the session it runs in, and returns. It may read the clock, and ask
how often works have begun to run. -/
abbrev QuietWork (τ : Type) := Work Glance (Answer τ)

/-- Among the operations of a session is one that reads the clock. -/
class Clocked (Op : Type) where
  now : Op

/-- What the script of a quiet work returns while the clock shows the given reading. -/
def Script.answer (runs : Runs) (clock : τ) : Script Glance (Answer τ) → Answer τ
  | .done answer => answer
  | .step .now next => (next (.instant clock)).answer runs clock
  | .runs work next => (next (runs work)).answer runs clock

/-- The script of a quiet work, among the operations of a session. -/
def Script.returning [Clocked Op] : Script Glance (Answer τ) → Script Op (Reply τ)
  | .done answer => .done (.ok answer)
  | .step .now next => .step Clocked.now fun
      | .ok answer => (next answer).returning
      | .error fault => .done (.error fault)
  | .runs work next => .runs work fun count => (next count).returning

/-- The quiet work, among the operations of a session. -/
def Work.returning [Clocked Op] (work : QuietWork τ) : Work Op (Reply τ) where
  id := work.id
  name := work.name
  source := work.source
  body arguments := (work.body arguments).returning

/-- What a quiet work returns in its next run while the clock shows the given reading. -/
def Work.returned (work : QuietWork τ) (runs : Runs) (clock : τ) : Answer τ :=
  (work.body {}).answer (runs.count work.id) clock

/-! ## The works of a run -/

/-- The work that begins to run. -/
def Event.work? : Event τ → Option (WorkId × String)
  | .ran work name _ _ => some (work, name)
  | _ => none

/-- The work of which the record tells here that it begins to run. -/
def Moment.work? : Moment Op R (Event τ) → Option (WorkId × String)
  | .event told => told.work?
  | .began _ _ | .ended _ _ _ => none

/-- The works of a record, in the order in which they began to run. -/
def works (history : List (Moment Op R (Event τ))) : List (WorkId × String) :=
  history.filterMap Moment.work?

/-- The works that a section of an operation reports to run. -/
def Effect.works (effect : Effect Op R Store Frame (Event τ)) : List (WorkId × String) :=
  effect.events.filterMap Event.work?

theorem works_append (history more : List (Moment Op R (Event τ))) :
    works (history ++ more) = works history ++ works more :=
  List.filterMap_append

theorem works_moments (effect : Effect Op R Store Frame (Event τ)) (op : Op) (depth : Nat) :
    works (effect.moments op depth) = effect.works := by
  have reported : works (effect.events.map (Moment.event : Event τ → Moment Op R (Event τ))) =
      effect.works := by
    rw [works, Effect.works, List.filterMap_map]
    rfl
  rw [Effect.moments, works_append, reported]
  cases effect.next <;> simp [works, Moment.work?]

theorem Event.work?_eq_none {event : Event τ} (silent : ¬ event.IsExecution) :
    event.work? = none := by
  cases event with
  | ran => exact absurd trivial silent
  | executed | wasReset | timerStarted | timerMoved | timerFired | registered | handedOver
  | handOverFailed | workFailed => rfl

/-- Where no execution is reported, no work runs. -/
theorem works_eq_nil {events : List (Event τ)} (silent : ∀ event ∈ events, ¬ event.IsExecution) :
    events.filterMap Event.work? = [] :=
  List.filterMap_eq_nil_iff.mpr fun event member => Event.work?_eq_none (silent event member)

/-- A turn tells that the work is to run, but it is not the turn that begins to run it. -/
theorem Debouncer.Served.work?_eq_none {σ κ ω : Type} [Instant τ] [Scheduler σ τ κ]
    {debouncer : Debouncer τ ω} {scheduler : σ} {callback : κ} {request : Request ω}
    {turn : Turn τ σ ω} (form : Served debouncer scheduler callback request turn) {event : Event τ}
    (told : event ∈ turn.events) : event.work? = none := by
  rcases form.executes_or_replies with ⟨cause, executes⟩ | replies
  · rcases executes.events with ⟨earlier, reported, silent⟩
    rw [reported, List.mem_append, List.mem_singleton] at told
    rcases told with before | rfl
    · exact Event.work?_eq_none (silent event before)
    · rfl
  · exact Event.work?_eq_none (replies.events event told)

/-- Where nothing is reported, no work runs. -/
theorem works_eq_nil_of_silent {history : List (Moment Op R (Event τ))}
    (silent : ∀ told, .event told ∉ history) : works history = [] := by
  rw [works, List.filterMap_eq_nil_iff]
  intro moment member
  cases moment with
  | event told => exact absurd member (silent told)
  | began | ended => rfl

/-! ## Operations that come to an end -/

/-- What an operation leaves behind: a store, how often works have begun to run, and the works that
did on the way. -/
structure Aftermath (Store : Type) where
  store : Store
  runs : Runs
  works : List (WorkId × String) := []

/-- The aftermath with another store. -/
def Aftermath.map {Store' : Type} (convert : Store → Store') (after : Aftermath Store) :
    Aftermath Store' where
  store := convert after.store
  runs := after.runs
  works := after.works

namespace Machine

variable {machine : Machine Op (Reply τ) Store Frame (Event τ)} {op : Op} {clock : Store → τ}
variable {effect : Effect Op (Reply τ) Store Frame (Event τ)} {runs : Runs} {reply : Reply τ}
variable {after : Aftermath Store}

/-- Reading the clock of the session shows what it reads, and changes nothing. -/
def Shows [Clocked Op] {Event : Type} (machine : Machine Op (Reply τ) Store Frame Event)
    (clock : Store → τ) : Prop :=
  ∀ store, machine.start Clocked.now store =
    { store := store, events := [], next := .finish (.ok (.instant (clock store))) }

/-- An operation of which a section has this effect comes to its end, if nothing is suspended around
it. -/
def Concludes (machine : Machine Op (Reply τ) Store Frame (Event τ)) (op : Op)
    (effect : Effect Op (Reply τ) Store Frame (Event τ)) (runs : Runs) (reply : Reply τ)
    (after : Aftermath Store) : Prop :=
  ∀ config : Config Op (Reply τ) Store Frame (Event τ), config.runs = runs → config.stack = [] →
    ∃ moments : List (Moment Op (Reply τ) (Event τ)), works moments = after.works ∧
      machine.Reaches (settle config op .done effect)
        { store := after.store, runs := after.runs, script := .done reply
          trace := config.trace ++ moments }

/-- A quiet work runs to its end, and changes nothing but the record, where it reports nothing. -/
theorem reaches_answer [Clocked Op] {Event : Type}
    {machine : Machine Op (Reply τ) Store Frame Event}
    (shows : machine.Shows clock) (script : Script Glance (Answer τ))
    (config : Config Op (Reply τ) Store Frame Event) :
    ∃ moments : List (Moment Op (Reply τ) Event), (∀ told, .event told ∉ moments) ∧
      machine.Reaches { config with script := script.returning }
        { config with
          script := .done (.ok (script.answer config.runs (clock config.store)))
          trace := config.trace ++ moments } := by
  induction script generalizing config with
  | done answer => exact ⟨[], by simp, by simpa using .refl⟩
  | runs work next ih =>
      rcases ih (config.runs work) config with ⟨moments, silent, reaches⟩
      exact ⟨moments, silent, (Reaches.refl.step rfl).trans reaches⟩
  | step glance next ih =>
      cases glance
      let reading : Answer τ := .instant (clock config.store)
      let read : List (Moment Op (Reply τ) Event) :=
        [.began Clocked.now config.stack.length,
          .ended Clocked.now (.ok reading) config.stack.length]
      have stepped : machine.step? { config with script := Script.returning (.step .now next) } =
          some { config with
            script := (next reading).returning
            trace := config.trace ++ read } := by
        simp [step?, Script.returning, settle, shows config.store, read, reading]
      rcases ih reading { config with trace := config.trace ++ read } with
        ⟨moments, silent, reaches⟩
      refine ⟨read ++ moments, by simpa [read] using silent, ?_⟩
      rw [← List.append_assoc]
      exact (Reaches.refl.step stepped).trans reaches

theorem Concludes.finish (ends : effect.next = .finish reply) :
    machine.Concludes op effect runs reply ⟨effect.store, runs, effect.works⟩ := by
  intro config counted outermost
  have settled : settle config op .done effect =
      { store := effect.store, runs := runs, script := .done reply
        trace := config.trace ++ effect.moments op 0 } := by
    simp [settle, Effect.moments, ends, counted, outermost]
  rw [settled]
  exact ⟨effect.moments op 0, works_moments effect op 0, .refl⟩

/-- Where a section runs a quiet work, a run gets to the section that follows. -/
theorem reaches_resume [Clocked Op] {Event : Type}
    {machine : Machine Op (Reply τ) Store Frame Event}
    (shows : machine.Shows clock) {effect : Effect Op (Reply τ) Store Frame Event} {frame : Frame}
    {work : QuietWork τ} (enters : effect.next = .enter frame work.returning {})
    {config : Config Op (Reply τ) Store Frame Event} (counted : config.runs = runs)
    (outermost : config.stack = []) (op : Op) :
    ∃ resumed : Config Op (Reply τ) Store Frame Event,
      resumed.runs = runs.count work.id ∧ resumed.stack = [] ∧
      (∃ inside, resumed.trace = config.trace ++ effect.moments op 0 ++ inside ∧
        ∀ told, .event told ∉ inside) ∧
      machine.Reaches (settle config op .done effect)
        (settle resumed op .done
          (machine.resume frame (.ok (work.returned runs (clock effect.store))) effect.store)) := by
  let entered : Config Op (Reply τ) Store Frame Event :=
    { store := effect.store, runs := runs.count work.id, script := (work.body {}).returning
      stack := [⟨op, frame, .done⟩], trace := config.trace ++ effect.moments op 0 }
  have settled : settle config op .done effect = entered := by
    simp [entered, settle, Effect.moments, enters, counted, outermost, Work.returning]
  rcases reaches_answer shows (work.body {}) entered with ⟨inside, silent, answers⟩
  let returned : Config Op (Reply τ) Store Frame Event :=
    { entered with
      script := .done (.ok (work.returned runs (clock effect.store)))
      trace := entered.trace ++ inside }
  refine ⟨{ returned with stack := [] }, rfl, rfl, ⟨inside, rfl, silent⟩, ?_⟩
  rw [settled]
  exact answers.trans (Reaches.refl.step rfl)

/-- When a quiet work has run the operation goes on with what it returns. -/
theorem Concludes.enter [Clocked Op] (shows : machine.Shows clock) {frame : Frame}
    {work : QuietWork τ} {store : Store} {counts : Runs} {ran : List (WorkId × String)}
    (enters : effect.next = .enter frame work.returning {})
    (rest : machine.Concludes op
      (machine.resume frame (.ok (work.returned runs (clock effect.store))) effect.store)
      (runs.count work.id) reply ⟨store, counts, ran⟩) :
    machine.Concludes op effect runs reply ⟨store, counts, effect.works ++ ran⟩ := by
  intro config counted outermost
  rcases reaches_resume shows enters counted outermost op with
    ⟨resumed, runs, stack, ⟨inside, trace, silent⟩, reaches⟩
  rcases rest resumed runs stack with ⟨moments, told, concludes⟩
  refine ⟨effect.moments op 0 ++ (inside ++ moments), ?_, ?_⟩
  · rw [works_append, works_append, works_moments, works_eq_nil_of_silent silent, told,
      List.nil_append]
  · rw [trace] at concludes
    rw [← List.append_assoc, ← List.append_assoc]
    exact reaches.trans concludes

/-- With enough fuel a run gets to every state that it can get to, and stays in the last one. -/
theorem run_of_reaches {R Event : Type} {machine : Machine Op R Store Frame Event}
    {first last : Config Op R Store Frame Event}
    (reaches : machine.Reaches first last) (final : machine.step? last = none) :
    ∀ᶠ fuel in Filter.atTop, machine.run fuel first = last := by
  have steps : ∃ steps, ∀ fuel, machine.run (steps + fuel) first = machine.run fuel last := by
    clear final
    induction reaches with
    | refl => exact ⟨0, fun fuel => by rw [Nat.zero_add]⟩
    | @step middle last _ stepped ih =>
        rcases ih with ⟨steps, same⟩
        refine ⟨steps + 1, ?_⟩
        intro fuel
        rw [Nat.add_assoc, Nat.add_comm 1, same, run, stepped]
  rcases steps with ⟨steps, same⟩
  have stays (fuel : Nat) : machine.run fuel last = last := by
    cases fuel with
    | zero => rfl
    | succ fuel => rw [run, final]
  filter_upwards [Filter.eventually_ge_atTop steps] with fuel enough
  rw [← Nat.add_sub_cancel' enough, same, stays]

/-- A run that has ended has gone through every state that it can get to, and ends from there in the
steps that are left. -/
theorem run_after {R Event : Type} {machine : Machine Op R Store Frame Event}
    {first middle last : Config Op R Store Frame Event} {fuel : Nat}
    (reaches : machine.Reaches first middle) (final : machine.step? last = none)
    (ran : machine.run fuel first = last) :
    ∃ left, left ≤ fuel ∧ machine.run left middle = last := by
  induction reaches with
  | refl => exact ⟨fuel, Nat.le_refl _, ran⟩
  | step _ stepped ih =>
      rcases ih with ⟨left, fewer, same⟩
      cases left with
      | zero =>
          rw [run] at same
          rw [same, final] at stepped
          cases stepped
      | succ left =>
          rw [run, stepped] at same
          exact ⟨left, Nat.le_of_succ_le fewer, same⟩

section Finishes

variable {R Event : Type} {machine : Machine Op R Store Frame Event} {op : Op} {store : Store}
variable {runs : Runs} {performed other : Performed Op R Store Event} {fuel : Nat}

/-- With enough steps the operation is performed to its end, with the given outcome. -/
def Finishes (machine : Machine Op R Store Frame Event) (op : Op) (store : Store) (runs : Runs)
    (performed : Performed Op R Store Event) : Prop :=
  ∀ᶠ fuel in Filter.atTop, machine.perform? fuel op store runs = some performed

/-- An operation has one outcome at most. -/
theorem Finishes.unique (finishes : machine.Finishes op store runs performed)
    (same : machine.Finishes op store runs other) : performed = other := by
  obtain ⟨fuel, first, second⟩ := (Filter.Eventually.and finishes same).exists
  exact Option.some.inj (first.symm.trans second)

/-- A run that has performed an operation has ended. -/
theorem step?_of_perform? (performs : machine.perform? fuel op store runs = some performed) :
    machine.step? (machine.run fuel { store := store, runs := runs, script := .perform op }) =
      none := by
  rw [perform?] at performs
  split at performs
  · next script stack => simp only [step?, script, stack]
  · cases performs

/-- More steps do not change the outcome. -/
theorem finishes_of_perform? (performs : machine.perform? fuel op store runs = some performed) :
    machine.Finishes op store runs performed := by
  have stays := run_of_reaches (reaches_run machine fuel _) (step?_of_perform? performs)
  filter_upwards [stays] with enough same
  rw [← performs, perform?, perform?, same]

end Finishes

/-- Performs an operation to its end, within the given number of steps. -/
def conclude? (machine : Machine Op (Reply τ) Store Frame (Event τ)) (fuel : Nat) (op : Op)
    (store : Store) (runs : Runs) : Option (Reply τ × Aftermath Store) :=
  (machine.perform? fuel op store runs).map fun performed =>
    (performed.reply,
      { store := performed.store, runs := performed.runs, works := works performed.trace })

/-- With enough fuel an operation that comes to its end is performed to its end. -/
theorem Concludes.conclude? {store : Store}
    (concludes : machine.Concludes op (machine.start op store) runs reply after) :
    ∀ᶠ fuel in Filter.atTop, machine.conclude? fuel op store runs = some (reply, after) := by
  let first : Config Op (Reply τ) Store Frame (Event τ) :=
    { store := store, runs := runs, script := .perform op }
  let begun : Config Op (Reply τ) Store Frame (Event τ) := { first with trace := [.began op 0] }
  have starts : machine.step? first = some (settle begun op .done (machine.start op store)) := rfl
  rcases concludes begun rfl rfl with ⟨moments, ran, ends⟩
  have reaches := (Reaches.refl.step starts).trans ends
  filter_upwards [run_of_reaches reaches rfl] with fuel ended
  have recorded : works (begun.trace ++ moments) = after.works := ran
  rw [Machine.conclude?, perform?, ended, Option.map_some, recorded]

end Machine

/-! ## Turns that run quiet works -/

namespace Turn

variable {σ κ : Type} [Scheduler σ τ κ] {machine : Machine Op (Reply τ) Store Frame (Event τ)}
variable {op : Op} {turn : Turn τ σ (Work Op (Reply τ))} {context : Fields}
variable {frame : Tail τ → Frame} {put : Debouncer τ (Work Op (Reply τ)) → σ → Store}
variable {runs : Runs} {reply : Reply τ}

theorem Replies.concludes (replies : turn.Replies) (demand : turn.demand = .reply reply) :
    machine.Concludes op (turn.effect context frame put) runs reply
      { store := put turn.debouncer turn.scheduler, runs := runs } := by
  rw [effect_of_reply demand]
  have concludes : machine.Concludes op
      { store := put turn.debouncer turn.scheduler, events := turn.events, next := .finish reply }
      runs reply _ := .finish rfl
  rwa [Effect.works, works_eq_nil replies.events] at concludes

theorem Executes.concludes [Clocked Op] {clock : Store → τ} (shows : machine.Shows clock)
    {cause : Cause} {tail : Tail τ} {work : QuietWork τ} {store : Store} {counts : Runs}
    {ran : List (WorkId × String)} (executes : turn.Executes cause)
    (demand : turn.demand = .execute tail) (held : turn.debouncer.work = some work.returning)
    (rest : machine.Concludes op
      (machine.resume (frame tail)
        (.ok (work.returned runs (clock (put turn.debouncer turn.scheduler))))
        (put turn.debouncer turn.scheduler))
      (runs.count work.id) reply ⟨store, counts, ran⟩) :
    machine.Concludes op (turn.effect context frame put) runs reply
      ⟨store, counts, (work.id, work.name) :: ran⟩ := by
  rcases executes.events with ⟨earlier, reported, silent⟩
  have first : (turn.effect context frame put).works = [(work.id, work.name)] := by
    simp [Effect.works, Turn.effect, demand, held, reported, works_eq_nil silent, Event.work?,
      List.filterMap_cons, Work.returning]
  have enters : (turn.effect context frame put).next = .enter (frame tail) work.returning {} := by
    simp [Turn.effect, demand, held]
  have concludes : machine.Concludes op (turn.effect context frame put) runs reply
      ⟨store, counts, (turn.effect context frame put).works ++ ran⟩ := by
    apply Machine.Concludes.enter shows enters
    rwa [effect_store]
  rwa [first] at concludes

end Turn

end Debounce
