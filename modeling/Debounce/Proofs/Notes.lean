import Debounce.Proofs.Run

/-!
# Notes on runs

An observer takes notes on the operations of a run as they begin, from the operation and the store
that it finds. The notes are what a statement about the past of a run speaks of. In a calm run the
works perform no operations of their own and return, so that one operation at most is suspended
at any time, and the next one begins when it has ended.
-/

namespace Debounce

variable {Op R Store Frame Event Note : Type}

/-- What an observer notes of the next step. -/
def Config.noted (note : Op → Store → List Note) (config : Config Op R Store Frame Event) :
    List Note :=
  match config.script with
  | .step op _ => note op config.store
  | .runs _ _ | .done _ => []

namespace Machine

/-- A run gets to a state, and the observer has taken these notes on the way. -/
inductive Noted (machine : Machine Op R Store Frame Event) (note : Op → Store → List Note)
    (first : Config Op R Store Frame Event) : Config Op R Store Frame Event → List Note → Prop where
  | refl : Noted machine note first first []
  | step {middle last : Config Op R Store Frame Event} {notes : List Note} :
      Noted machine note first middle notes → machine.step? middle = some last →
      Noted machine note first last (notes ++ middle.noted note)

/-- The notes on a number of steps. -/
def notes (machine : Machine Op R Store Frame Event) (note : Op → Store → List Note) (fuel : Nat)
    (config : Config Op R Store Frame Event) : List Note :=
  match fuel with
  | 0 => []
  | fuel + 1 => match machine.step? config with
      | none => []
      | some next => config.noted note ++ machine.notes note fuel next

variable {machine : Machine Op R Store Frame Event} {note : Op → Store → List Note}
variable {first middle last : Config Op R Store Frame Event} {notes : List Note}

namespace Noted

theorem reaches (noted : machine.Noted note first last notes) : machine.Reaches first last := by
  induction noted with
  | refl => exact .refl
  | step _ stepped ih => exact ih.step stepped

theorem trans {earlier later : List Note} (noted : machine.Noted note first middle earlier)
    (more : machine.Noted note middle last later) :
    machine.Noted note first last (earlier ++ later) := by
  induction more with
  | refl =>
      rw [List.append_nil]
      exact noted
  | step _ stepped ih =>
      rw [← List.append_assoc]
      exact ih.step stepped

/-- An invariant of store and notes that every section of an operation keeps is kept by a run. An
operation may leave something behind for the frame where it goes on, as long as further notes do
not change it. -/
theorem keeps (noted : machine.Noted note first last notes) (Inv : Store → List Note → Prop)
    (Waits : Frame → List Note → Prop)
    (lasts : ∀ frame notes more, Waits frame notes → Waits frame (notes ++ more))
    (started : ∀ op store notes, Inv store notes →
      Inv (machine.start op store).store (notes ++ note op store) ∧
        ∀ frame ∈ (machine.start op store).next.frame?, Waits frame (notes ++ note op store))
    (resumed : ∀ frame reply store notes, Waits frame notes → Inv store notes →
      Inv (machine.resume frame reply store).store notes ∧
        ∀ later ∈ (machine.resume frame reply store).next.frame?, Waits later notes)
    (initial : Inv first.store []) (outermost : first.stack = []) : Inv last.store notes := by
  suffices kept : Inv last.store notes ∧ ∀ waiting ∈ last.stack, Waits waiting.frame notes from
    kept.1
  induction noted with
  | refl => exact ⟨initial, by simp [outermost]⟩
  | @step middle last notes noted stepped ih =>
      rcases ih with ⟨kept, waits⟩
      cases step_of_step? stepped with
      | @start op next script =>
          have after := started op middle.store notes kept
          simp only [Config.noted, script, settle_store]
          refine ⟨after.1, ?_⟩
          intro waiting member
          rcases mem_settle_stack _ _ _ _ member with before | ⟨_, goesOn⟩
          · exact lasts _ _ _ (waits waiting before)
          · exact after.2 _ goesOn
      | ask script => simpa [Config.noted, script] using ⟨kept, waits⟩
      | @resume reply op frame next rest script stack =>
          have after := resumed frame reply middle.store notes
            (waits ⟨op, frame, next⟩ (by simp [stack])) kept
          simp only [Config.noted, script, settle_store, List.append_nil]
          refine ⟨after.1, ?_⟩
          intro waiting member
          rcases mem_settle_stack _ _ _ _ member with before | ⟨_, goesOn⟩
          · exact waits waiting (by simp [stack, before])
          · exact after.2 _ goesOn

end Noted

/-- Running for a number of steps takes the notes on them. -/
theorem noted_run (machine : Machine Op R Store Frame Event) (note : Op → Store → List Note)
    (fuel : Nat) (first : Config Op R Store Frame Event) :
    machine.Noted note first (machine.run fuel first) (machine.notes note fuel first) := by
  induction fuel generalizing first with
  | zero => exact .refl
  | succ fuel ih =>
      cases stepped : machine.step? first with
      | none =>
          simp only [run, Machine.notes, stepped]
          exact .refl
      | some next =>
          simp only [run, Machine.notes, stepped]
          exact (Noted.refl.step stepped).trans (ih next)

end Machine

/-! ## Calm runs -/

section Calm

variable {ε α : Type} {machine : Machine Op (Except ε α) Store Frame Event}
variable {note : Op → Store → List Note}
variable {first middle last config : Config Op (Except ε α) Store Frame Event} {notes : List Note}

/-- If a work is running here, it does not perform an operation now, and it does not fail. -/
def Config.isCalm (config : Config Op (Except ε α) Store Frame Event) : Bool :=
  config.stack.isEmpty || match config.script with
    | .step _ _ | .done (.error _) => false
    | .runs _ _ | .done (.ok _) => true

/-- In every state of the run up to the last one the works are calm. -/
def Machine.Calm (machine : Machine Op (Except ε α) Store Frame Event)
    (first last : Config Op (Except ε α) Store Frame Event) : Prop :=
  ∀ middle, machine.Reaches first middle → machine.Reaches middle last → middle.isCalm = true

namespace Machine

theorem Calm.before (calm : machine.Calm first last)
    (stepped : machine.step? middle = some last) : machine.Calm first middle :=
  fun earlier reaches later => calm earlier reaches (later.step stepped)

theorem Calm.at_last (calm : machine.Calm first last) (reaches : machine.Reaches first last) :
    last.isCalm = true := calm last reaches .refl

/-- The run ends within a number of steps, and the works are calm until then. -/
def endsCalmly (machine : Machine Op (Except ε α) Store Frame Event) (fuel : Nat)
    (config : Config Op (Except ε α) Store Frame Event) : Bool :=
  config.isCalm && match fuel with
    | 0 => false
    | fuel + 1 => match machine.step? config with
        | none => true
        | some next => machine.endsCalmly fuel next

theorem calm_of_endsCalmly {fuel : Nat} (calmly : machine.endsCalmly fuel first = true)
    (last : Config Op (Except ε α) Store Frame Event) : machine.Calm first last := by
  intro middle reaches _
  induction fuel generalizing first with
  | zero => simp [endsCalmly] at calmly
  | succ fuel ih =>
      rw [endsCalmly, Bool.and_eq_true] at calmly
      rcases reaches.first_step with rfl | ⟨next, stepped, later⟩
      · exact calmly.1
      · have rest := calmly.2
        rw [stepped] at rest
        exact ih rest later

/-- In a calm run an operation begins when nothing is suspended. -/
theorem stack_of_isCalm {op : Op} {next : Except ε α → Script Op (Except ε α)}
    (calm : config.isCalm = true) (script : config.script = .step op next) : config.stack = [] := by
  simpa [Config.isCalm, script] using calm

theorem returned_of_isCalm {reply : Except ε α} (calm : config.isCalm = true)
    (script : config.script = .done reply) (suspended : config.stack ≠ []) :
    ∃ value, reply = .ok value := by
  cases reply with
  | ok value => exact ⟨value, rfl⟩
  | error fault => simp [Config.isCalm, script, suspended] at calm

/-- After a section of an operation that nothing else was suspended around, what is suspended is the
operation, if it goes on. -/
theorem frames_settle {op : Op} {next : Except ε α → Script Op (Except ε α)}
    {effect : Effect Op (Except ε α) Store Frame Event} (outermost : config.stack = []) :
    (settle config op next effect).stack.map Suspended.frame = effect.next.frame?.toList := by
  rw [settle_stack, outermost, List.append_nil]
  cases effect.next.frame? <;> rfl

/-- An invariant of a calm run speaks of the store, of the frame where the operation in progress
goes on, and of the notes. It is kept by operations that begin when nothing is suspended, and by
operations that go on with what the work has returned. -/
theorem Noted.keeps_calm (noted : machine.Noted note first last notes)
    (calm : machine.Calm first last) (outermost : first.stack = [])
    (Inv : Store → Option Frame → List Note → Prop)
    (started : ∀ op store notes, Inv store none notes →
      Inv (machine.start op store).store (machine.start op store).next.frame?
        (notes ++ note op store))
    (resumed : ∀ frame value store notes, Inv store (some frame) notes →
      Inv (machine.resume frame (.ok value) store).store
        (machine.resume frame (.ok value) store).next.frame? notes)
    (initial : Inv first.store none []) :
    ∃ frame?, last.stack.map Suspended.frame = frame?.toList ∧ Inv last.store frame? notes := by
  induction noted with
  | refl => exact ⟨none, by simp [outermost], initial⟩
  | @step middle last notes noted stepped ih =>
      have calmBefore := calm.before stepped
      have calmHere := calmBefore.at_last noted.reaches
      rcases ih calmBefore with ⟨frame?, frames, kept⟩
      cases step_of_step? stepped with
      | @start op next script =>
          have empty := stack_of_isCalm calmHere script
          obtain rfl : frame? = none := by simpa [empty] using frames.symm
          refine ⟨_, frames_settle empty, ?_⟩
          simpa [Config.noted, script] using started op _ _ kept
      | ask script => exact ⟨frame?, frames, by simpa [Config.noted, script] using kept⟩
      | @resume reply op frame next rest script stack =>
          obtain ⟨value, rfl⟩ := returned_of_isCalm calmHere script (by simp [stack])
          obtain ⟨rfl, rfl⟩ : rest = [] ∧ frame? = some frame := by
            cases frame? <;> simp_all
          refine ⟨_, frames_settle rfl, ?_⟩
          simpa [Config.noted, script] using resumed frame value _ _ kept

end Machine

end Calm

end Debounce
