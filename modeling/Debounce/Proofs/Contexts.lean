import Debounce.Proofs.Completion
import Debounce.Proofs.Returning

/-!
# The contexts of deferred works

The work of a timer runs in a copy of the context that was bound where and when the timer was set.
It may bind variables, call the debouncer again and let further timers fire, and the program may
do so in the meantime; each of them only ever sees what was bound on its own strand, and what the
strand that set its timer had bound by then.
-/

namespace Debounce.BackgroundSession

variable {τ : Type} [Instant τ]

/-- The frames that are suspended in a state. -/
def framesOf (state : State τ) : List (Frame τ) := state.stack.map Suspended.frame

/-- The strand that runs. -/
def strandOf (state : State τ) : Strand := strand (framesOf state)

/-! ## Runs -/

/-- What a step means for contexts: an operation may change that of its strand, and set a timer. -/
def noteStep (before after : State τ) : List ContextNote :=
  (match before.script with
    | .step op _ => [.changed (strandOf before) op.rebind]
    | .done _ | .runs _ _ => []) ++
  (before.store.agenda.added after.store.agenda).map (.scheduled · (strandOf before))

/-- A run, with what it means for contexts. Whoever runs may change the context as they like
between two steps. -/
inductive Goes (first : State τ) : State τ → List ContextNote → Prop where
  | start : Goes first first []
  | step {before after : State τ} {notes : List ContextNote} :
      Goes first before notes → machine.step? before = some after →
      (∀ op next, before.script = .step op next → op.sparesPool = true) →
      Goes first after (notes ++ noteStep before after)
  | rebind {state : State τ} {notes : List ContextNote} (change : Fields → Fields) :
      Goes first state notes →
      Goes first { state with store := { state.store with context := change state.store.context } }
        (notes ++ [.changed (strandOf state) change])

section Runs

variable {initial : Fields} {notes : List ContextNote} {store : Store τ} {outcome : Outcome τ}
variable {state next : State τ}

omit [Instant τ] in
theorem noteStep_of_step {op : Op τ} {after : Reply τ → Script (Op τ) (Reply τ)}
    (script : state.script = .step op after) :
    noteStep state next = .changed (strandOf state) op.rebind ::
      (state.store.agenda.added next.store.agenda).map (.scheduled · (strandOf state)) := by
  rw [noteStep, script]
  rfl

omit [Instant τ] in
theorem noteStep_of_length_eq (other : ∀ op after, state.script ≠ .step op after)
    (same : next.store.agenda.timers.length = state.store.agenda.timers.length) :
    noteStep state next = [] := by
  rw [noteStep, Agenda.added_of_length_eq same]
  cases script : state.script with
  | step op after => exact absurd script (other op after)
  | done | runs => rfl

/-- A step agrees with what has been noted, with what it means for contexts. -/
theorem coherent_of_step (coherent : Coherent initial notes state.store (framesOf state))
    (stepped : machine.step? state = some next)
    (spares : ∀ op after, state.script = .step op after → op.sparesPool = true) :
    Coherent initial (notes ++ noteStep state next) next.store (framesOf next) := by
  cases Machine.step_of_step? stepped with
  | @start op after script =>
      rw [noteStep_of_step script, framesOf, Machine.map_frame_settle_stack, Machine.settle_store]
      rcases section_start coherent.ready (spares op after script) with acts | ⟨plain, opens⟩
      · have added := Agenda.added_of_length_eq acts.keeps.length
        change Agenda.added _ (machine.start op state.store).store.agenda = [] at added
        rw [added]
        exact coherent.acts_rebind acts
      · obtain ⟨time, task, sets⟩ := opens.sets
        have added := Agenda.added_add state.store.agenda time ⟨state.store.context, task⟩
        rw [← sets] at added
        change Agenda.added _ (machine.start op state.store).store.agenda = _ at added
        have finishes : (machine.start op state.store).next.frame? = none := opens.finishes
        have noted := (coherent.rebind id).opens opens
        rw [List.append_assoc] at noted
        rw [added, plain, finishes]
        exact noted
  | ask script =>
      rw [noteStep_of_length_eq, List.append_nil]
      · exact coherent
      · simp [script]
      · rfl
  | @resume reply op frame after rest script stack =>
      rw [framesOf, stack] at coherent
      obtain ⟨resumed, keeps⟩ := coherent.resumes reply
      rw [noteStep_of_length_eq (by simp [script]), List.append_nil, framesOf,
        Machine.map_frame_settle_stack, Machine.settle_store]
      · exact resumed
      · rw [Machine.settle_store]
        exact keeps.length

theorem coherent_of_goes {first : State τ} (goes : Goes first state notes)
    (coherent : Coherent initial [] first.store (framesOf first)) :
    Coherent initial notes state.store (framesOf state) := by
  induction goes with
  | start => exact coherent
  | step _ stepped spares ih => exact coherent_of_step ih stepped spares
  | rebind change _ ih => exact ih.rebind change

/-- A step keeps the timers, or it sets one with a copy of the context. -/
theorem keeps_or_adds (coherent : Coherent initial notes state.store (framesOf state))
    (stepped : machine.step? state = some next)
    (spares : ∀ op after, state.script = .step op after → op.sparesPool = true) :
    state.store.agenda.Keeps next.store.agenda ∨ ∃ time task,
      next.store.agenda = (state.store.agenda.add time ⟨state.store.context, task⟩).2 := by
  cases Machine.step_of_step? stepped with
  | @start op after script =>
      rw [Machine.settle_store]
      rcases section_start coherent.ready (spares op after script) with acts | ⟨_, opens⟩
      · exact .inl acts.keeps
      · exact .inr opens.sets
  | ask script => exact .inl (Agenda.keeps_of_timers rfl)
  | @resume reply op frame after rest script stack =>
      rw [framesOf, stack] at coherent
      rw [Machine.settle_store]
      exact .inl (coherent.resumes reply).2

/-- In the course of the run the timer was set in a step, in the context that was bound there. -/
def WasSet (first last : State τ) (notes : List ContextNote) (id : TimerId) (context : Fields) :
    Prop :=
  ∃ before after earlier later, Goes first before earlier ∧ machine.step? before = some after ∧
    Goes after last later ∧ notes = earlier ++ noteStep before after ++ later ∧
    id ∈ before.store.agenda.added after.store.agenda ∧ before.store.context = context

/-- A timer holds the context that it was set in. -/
theorem Goes.wasSet {first : State τ} (goes : Goes first state notes)
    (coherent : Coherent initial [] first.store (framesOf first))
    (free : first.store.agenda.timers = []) {id : TimerId} {timer : Timer τ (Deferred τ)}
    (stored : state.store.agenda.get? id = some timer) :
    WasSet first state notes id timer.callback.context := by
  induction goes generalizing timer with
  | start => simp [Agenda.get?, free] at stored
  | @step before after notes goes stepped spares ih =>
      have now := coherent_of_goes goes coherent
      rcases keeps_or_adds now stepped spares with keeps | ⟨time, task, adds⟩
      · obtain ⟨former, found, same, _⟩ := keeps.former id timer stored
        obtain ⟨setting, set, earlier, later, begins, sets, goesOn, rfl, rest⟩ := ih found
        rw [same]
        exact ⟨setting, set, earlier, _, begins, sets, goesOn.step stepped spares, by simp, rest⟩
      · rw [adds, Agenda.get?_add] at stored
        split at stored
        · next same =>
            obtain rfl := Option.some.inj stored
            refine ⟨before, after, notes, [], goes, stepped, .start, by simp, ?_, rfl⟩
            rw [adds, Agenda.added_add, same]
            exact List.mem_singleton_self _
        · obtain ⟨setting, set, earlier, later, begins, sets, goesOn, rfl, rest⟩ := ih stored
          exact ⟨setting, set, earlier, _, begins, sets, goesOn.step stepped spares, by simp, rest⟩
  | rebind change _ ih =>
      obtain ⟨setting, set, earlier, later, begins, sets, goesOn, rfl, rest⟩ := ih stored
      exact ⟨setting, set, earlier, _, begins, sets, goesOn.rebind change, by simp, rest⟩

/-- A work begins to run in the step, on the strand, and sees the context. -/
structure Begins (state next : State τ) (on : Strand) (seen : Fields) : Prop where
  strand : strandOf next = on
  context : next.store.context = seen
  runs : ∃ (work : Work (Op τ) (Reply τ)) (time : τ), next.script = work.body {} ∧
    machine.Records state next (.event (.ran work.id work.name time seen))

section Executions

variable {config : State τ} {op : Op τ} {after : Reply τ → Script (Op τ) (Reply τ)} {name : Value}
variable {cause : Cause}

theorem begins_of_shows {Permitted : Cause → Prop} (shows_ : Shows outcome Permitted)
    (reported : .executed name cause ∈ outcome.events)
    (records : ∀ event ∈ outcome.events,
      machine.Records state (Machine.settle config op after outcome) (.event event)) :
    Permitted cause ∧ Begins state (Machine.settle config op after outcome)
      (strand (outcome.next.frame?.toList ++ framesOf config)) outcome.store.context := by
  obtain ⟨permitted, frame, work, time, enters, ran⟩ := shows_ name cause reported
  refine ⟨permitted, ?_, ?_, ?_⟩
  · rw [strandOf, framesOf, Machine.map_frame_settle_stack]
    rfl
  · rw [Machine.settle_store]
  · exact ⟨work, time, Machine.settle_script_of_enter _ _ _ _ enters, records _ ran⟩

/-- Where a timer fires, an execution is put down to it, and sees the context that the timer
holds. -/
theorem begins_of_fires {id : TimerId} {timer : Timer τ (Deferred τ)}
    (fires : Fires store outcome id timer) (reported : .executed name cause ∈ outcome.events)
    (records : ∀ event ∈ outcome.events,
      machine.Records state (Machine.settle config op after outcome) (.event event)) :
    cause = .timer id ∧ Begins state (Machine.settle config op after outcome) (.timer id)
      timer.callback.context := by
  obtain ⟨rfl, begins⟩ := begins_of_shows fires.shows reported records
  rw [fires.goesOn, fires.context] at begins
  exact ⟨rfl, begins⟩

/-- The pool executes nothing for a debouncer that no timer hands over. -/
theorem spares_of_executed {op : Op τ} (reported : .executed name cause ∈ (start op store).events) :
    op.sparesPool = true := by
  cases op with
  | tidy chores => cases reported
  | report ending => cases ending <;> simp [start, answer] at reported
  | submit work? arguments =>
      have ranOnly (made : Store τ) (frame : Frame τ) :
          .executed name cause ∉ (submit made work? arguments frame).events := by
        rw [submit]
        split <;> cases work? <;> simp [runWork, skip]
      simp only [start] at reported
      split at reported
      · cases reported
      · exact absurd reported (ranOnly _ _)
  | _ => rfl

/-- Where an execution is reported when an operation goes on, a timer fires. -/
theorem fires_of_resume {frame : Frame τ} {frames : List (Frame τ)} {reply : Reply τ}
    (coherent : Coherent initial notes store (frame :: frames))
    (reported : .executed name cause ∈ (resume frame reply store).events) :
    ∃ id timer context,
      Fires { store with context := context } (resume frame reply store) id timer := by
  cases frame with
  | submitted context => cases coherent.returns
  | serving tail =>
      obtain ⟨debouncer, holds, _⟩ := coherent.ready.holds
      rw [resume, holds] at reported
      cases reported
  | settling timer returning =>
      have below := coherent.of_settling
      have silent : ∀ event ∈ failure timer reply, ¬ event.IsExecution := by
        cases reply <;> simp [failure]
      rcases settle_cases below.ready with idle | ⟨id, other, fires⟩
      · rw [resume, idle, answer, List.append_nil] at reported
        exact absurd trivial (silent _ reported)
      · exact ⟨id, other, returning, fires.prepend silent⟩

/-- An execution begins where it is asked for, in the context of the caller, or it is put down to a
timer. -/
theorem begins_of_executed (coherent : Coherent initial notes state.store (framesOf state))
    (records : machine.Records state next (.event (.executed name cause))) :
    ((∀ id, cause ≠ .timer id) ∧ Begins state next (strandOf state) state.store.context) ∨
      ∃ id timer, cause = .timer id ∧ state.store.agenda.get? id = some timer ∧
        Begins state next (.timer id) timer.callback.context := by
  cases records.recording with
  | @start op after script member =>
      have reported : .executed name cause ∈ (start op state.store).events :=
        Effect.event_mem_moments.mp (List.mem_of_ne_of_mem (by simp) member)
      have recorded : ∀ event ∈ (machine.start op state.store).events,
          machine.Records state _ (.event event) := fun _ => Machine.records_of_start script
      rcases section_start coherent.ready (spares_of_executed reported) with acts | ⟨_, opens⟩
      · generalize rebinds : op.rebind = change at acts
        cases acts with
        | rebound _ _ silent => exact absurd trivial (silent _ reported)
        | own context ready keeps goesOn shows_ =>
            left
            obtain ⟨permitted, begins⟩ := begins_of_shows shows_ reported recorded
            have same : strand ((start op state.store).next.frame?.toList ++ framesOf state) =
                strandOf state := strand_append_serving goesOn _
            exact ⟨permitted, same ▸ context ▸ begins⟩
        | fired fires =>
            obtain ⟨same, begins⟩ := begins_of_fires fires reported recorded
            exact .inr ⟨_, _, same, fires.stored, begins⟩
      · exact absurd trivial (opens.silent _ reported)
  | @resume reply op frame after rest script stack member =>
      have reported : .executed name cause ∈ (resume frame reply state.store).events :=
        Effect.event_mem_moments.mp member
      have recorded : ∀ event ∈ (machine.resume frame reply state.store).events,
          machine.Records state _ (.event event) := fun _ => Machine.records_of_resume script stack
      rw [framesOf, stack] at coherent
      obtain ⟨id, timer, context, fires⟩ := fires_of_resume coherent reported
      obtain ⟨same, begins⟩ := begins_of_fires fires reported recorded
      exact .inr ⟨id, timer, same, fires.stored, begins⟩

end Executions

end Runs

omit [Instant τ] in
/-- A session begins without timers, and its pool is there. -/
theorem exists_pool_of_create {clock : τ} {environment : Environment} {created : Store τ}
    (create : Store.create clock environment = .ok created) :
    ∃ pool process, process.executor = (.ok pool, process) ∧
      created = { agenda := { now := clock }, process := process } := by
  rw [Store.create] at create
  split at create
  · next pool process made =>
      cases create
      exact ⟨pool, process, Process.executor_of_executor made, rfl⟩
  · cases create

theorem coherent_create {clock : τ} {environment : Environment} {created : Store τ}
    (create : Store.create clock environment = .ok created) (settings : Settings) (name : Value)
    (initial : Fields) :
    Coherent initial []
      { created with debouncer := some (.new settings name clock), context := initial } [] := by
  obtain ⟨pool, process, made, rfl⟩ := exists_pool_of_create create
  have nobody (id : TimerId) (timer : Timer τ (Deferred τ)) :
      ({ now := clock } : Agenda τ (Deferred τ)).get? id ≠ some timer := by
    simp [Agenda.get?]
  constructor
  · refine ⟨⟨pool, made⟩, _, rfl, ?_⟩
    intro _
    refine ⟨by simp [Debouncer.new], ?_⟩
    intro id timer stored
    exact absurd stored (nobody id timer)
  · rfl
  · exact .nil
  · intro id timer stored
    exact absurd stored (nobody id timer)

/-- Works see the context of their own strand, whatever is bound on others, and whichever call has
supplied them. A timer begins in the context that was bound where and when it was set, and the
executions within calls see the context of the caller. What the work of a timer binds makes no
difference to a strand that does not descend from it. -/
theorem deferred_work_sees_its_context (settings : Settings) (name : Value) (clock : τ)
    (environment : Environment) (created : Store τ) (initial : Fields)
    (script : Script (Op τ) (Reply τ)) (first state : State τ) (notes : List ContextNote)
    (create : Store.create clock environment = .ok created)
    (begins : first =
      { store := { created with debouncer := some (.new settings name clock), context := initial }
        script := script })
    (goes : Goes first state notes) :
    state.store.context = contexts initial notes (strandOf state) ∧
    (∀ next debouncer id,
      machine.Records state next (.event (.executed debouncer (.timer id))) →
      ∃ context, WasSet first state notes id context ∧ Begins state next (.timer id) context) ∧
    (∀ next debouncer cause, machine.Records state next (.event (.executed debouncer cause)) →
      (∀ id, cause ≠ .timer id) → Begins state next (strandOf state) state.store.context) ∧
    ∀ id strand, ¬ Descends notes id strand →
      contexts initial (notes.filter fun note => !note.changes (.timer id)) strand =
        contexts initial notes strand := by
  have start : Coherent initial [] first.store (framesOf first) := by
    rw [begins]
    exact coherent_create create settings name initial
  have free : first.store.agenda.timers = [] := by
    obtain ⟨_, _, _, rfl⟩ := exists_pool_of_create create
    rw [begins]
  have coherent := coherent_of_goes goes start
  refine ⟨coherent.context, ?_, ?_, fun id strand apart => contexts_filter apart⟩
  · intro next debouncer id records
    rcases begins_of_executed coherent records with ⟨other, _⟩ | ⟨place, timer, same, stored, runs⟩
    · exact absurd rfl (other id)
    · obtain rfl := Cause.timer.inj same
      exact ⟨_, goes.wasSet start free stored, runs⟩
  · intro next debouncer cause records other
    rcases begins_of_executed coherent records with ⟨_, runs⟩ | ⟨id, _, same, _, _⟩
    · exact runs
    · exact absurd same (other id)

/-- Runs for at most the given number of steps, as far as the operations leave the pool alone. -/
def sparing (fuel : Nat) (state : State τ) : Bool :=
  match fuel with
  | 0 => true
  | fuel + 1 =>
      (match state.script with
        | .step op _ => op.sparesPool
        | .done _ | .runs _ _ => true) &&
      match machine.step? state with
      | none => true
      | some next => sparing fuel next

theorem goes_run {first state : State τ} {notes : List ContextNote} (goes : Goes first state notes)
    (fuel : Nat) (spares : sparing fuel state = true) :
    ∃ later, Goes first (machine.run fuel state) later := by
  induction fuel generalizing state notes with
  | zero => exact ⟨notes, goes⟩
  | succ fuel ih =>
      rw [sparing, Bool.and_eq_true] at spares
      rw [Machine.run]
      cases stepped : machine.step? state with
      | none => exact ⟨notes, goes⟩
      | some next =>
          have allowed : ∀ op after, state.script = .step op after → op.sparesPool = true := by
            intro op after script
            simpa [script] using spares.1
          rw [stepped] at spares
          exact ih (goes.step stepped allowed) spares.2

/-- A work that binds a variable and calls the debouncer again. -/
def binding : Work (Op Float) (Reply Float) where
  id := [0]
  name := "binds"
  body _ := .before [.bind [("inner", .bool true)], .request (.call none)] (.done (.ok .nothing))

/-- The timer that the execution is put down to that begins here. -/
def Moment.timer? : Moment (Op τ) (Reply τ) (Event τ) → Option TimerId
  | .event (.executed _ (.timer id)) => some id
  | _ => none

omit [Instant τ] in
theorem Moment.eq_of_timer? {moment : Moment (Op τ) (Reply τ) (Event τ)} {id : TimerId}
    (executes : Moment.timer? moment = some id) :
    ∃ name, moment = .event (.executed name (.timer id)) := by
  rw [Moment.timer?.eq_def] at executes
  split at executes
  · cases executes
    exact ⟨_, rfl⟩
  · cases executes

/-- The program clears its context before the first timer fires. The work of this timer binds a
variable and starts the next period; the second timer sees what both have bound, and the program
sees nothing of it. -/
theorem deferred_work_sees_its_context_of_two_periods :
    let created : Store Float :=
      { agenda := { now := 0 }, process := (Process.executor { environment := [] }).2 }
    let script : Script (Op Float) (Reply Float) := .before
      [.bind [("outer", .bool true)], .request (.call (some binding)), .clearContext,
        .setClock (.ok 6), .settle, .setClock (.ok 20), .settle] (.done (.ok .nothing))
    let first : State Float :=
      { store := { created with debouncer := some (.new fiveSeconds .null 0), context := [] }
        script := script }
    let state := machine.run 9 first
    ∃ notes, Goes first state notes ∧
      (∃ next context, WasSet first state notes 1 context ∧ Begins state next (.timer 1) context ∧
        context.map Prod.fst = ["outer", "inner"]) ∧
      contexts [] (notes.filter fun note => !note.changes (.timer 0)) .program =
        state.store.context ∧ state.store.context.map Prod.fst = [] := by
  intro created script first state
  have begins : Goes first first [] := .start
  obtain ⟨notes, goes⟩ := goes_run begins 9 (by decide +kernel)
  have sees := deferred_work_sees_its_context fiveSeconds .null 0 [] created [] script first state
    notes rfl rfl goes
  have executes : (machine.step? state).any (fun next =>
      (next.trace.drop state.trace.length).any fun moment =>
        decide (Moment.timer? moment = some 1)) = true := by decide +kernel
  obtain ⟨next, moment, records, found⟩ := Machine.exists_records executes
  obtain ⟨name, rfl⟩ := Moment.eq_of_timer? (of_decide_eq_true found)
  obtain ⟨context, wasSet, runs⟩ := sees.2.1 next name 1 records
  have bound : (machine.step? state).all (fun next =>
      decide (next.store.context.map Prod.fst = ["outer", "inner"])) = true := by decide +kernel
  rw [records.1] at bound
  have outside : strandOf state = .program := by decide +kernel
  refine ⟨notes, goes, ⟨next, context, wasSet, runs, ?_⟩, ?_, by decide +kernel⟩
  · rw [← runs.context]
    exact of_decide_eq_true bound
  · rw [sees.2.2.2 0 .program nofun, sees.1, outside]

end Debounce.BackgroundSession
