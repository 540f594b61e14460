import Debounce.Proofs.Lockstep

/-!
# Translated runs

The states of a run can be translated: its stores, what its operations have suspended and the events
it has recorded. If every section of an operation does the same with a translated store as with the
store itself, then translating a state and running on from it can be done in either order.
-/

namespace Debounce

variable {Op R Store Frame Event : Type}

/-- A translation of what a machine works on. -/
structure Machine.Translation (Store Frame Event : Type) where
  store : Store → Store
  frame : Frame → Frame
  event : Event → Event

variable (translation : Machine.Translation Store Frame Event)

/-- The operation ends or goes on as before, at the translated frame. -/
def Next.translated : Next Op R Frame → Next Op R Frame
  | .finish reply => .finish reply
  | .enter frame work arguments => .enter (translation.frame frame) work arguments
  | .skip frame reply => .skip (translation.frame frame) reply

/-- The effect on the translated store. -/
def Effect.translated (effect : Effect Op R Store Frame Event) :
    Effect Op R Store Frame Event where
  store := translation.store effect.store
  events := effect.events.map translation.event
  next := effect.next.translated translation

/-- The operation that waits at the translated frame. -/
def Suspended.translated (suspended : Suspended Op R Frame) : Suspended Op R Frame :=
  { suspended with frame := translation.frame suspended.frame }

/-- The translated state of a run: the script goes on as before. -/
def Config.translated (config : Config Op R Store Frame Event) :
    Config Op R Store Frame Event :=
  { config with
    store := translation.store config.store
    stack := config.stack.map (Suspended.translated translation)
    trace := config.trace.map (Moment.seen translation.event) }

namespace Machine

variable {translation} {machine : Machine Op R Store Frame Event}
variable {config : Config Op R Store Frame Event}

variable (translation) in
theorem settle_translated (config : Config Op R Store Frame Event) (op : Op)
    (next : R → Script Op R) (effect : Effect Op R Store Frame Event) :
    settle (config.translated translation) op next (effect.translated translation) =
      (settle config op next effect).translated translation := by
  have events : (effect.events.map translation.event).map
      (Moment.event : Event → Moment Op R Event) =
      (effect.events.map Moment.event).map (Moment.seen translation.event) := by
    rw [List.map_map, List.map_map]
    rfl
  cases ending : effect.next <;>
    simp [settle, Config.translated, Effect.translated, Next.translated, ending, events,
      Moment.seen, Suspended.translated]

/-- A step from the translated state is the translated step, if the section that acts does the same
with the translated store. -/
theorem step?_translated
    (started : ∀ op next, config.script = .step op next →
      machine.start op (translation.store config.store) =
        (machine.start op config.store).translated translation)
    (resumed : ∀ frame reply store, machine.resume (translation.frame frame) reply
      (translation.store store) = (machine.resume frame reply store).translated translation) :
    machine.step? (config.translated translation) =
      (machine.step? config).map (Config.translated translation) := by
  rcases config with ⟨store, runs, script, stack, trace⟩
  cases script with
  | step op next =>
      have recorded := settle_translated translation
        ⟨store, runs, .step op next, stack, trace ++ [.began op stack.length]⟩ op next
        (machine.start op store)
      rw [← started op next rfl] at recorded
      simpa [step?, Config.translated, Moment.seen] using recorded
  | runs work next => rfl
  | done reply =>
      cases stack with
      | nil => rfl
      | cons waiting below =>
          have popped := settle_translated translation
            ⟨store, runs, .done reply, below, trace⟩ waiting.op waiting.next
            (machine.resume waiting.frame reply store)
          rw [← resumed] at popped
          exact congrArg some popped

/-- A run from the translated state is the translated run. Only the operations that begin need be
such that they do the same with a translated store. -/
theorem run_translated (Allowed : Op → Prop)
    (started : ∀ op store, Allowed op →
      machine.start op (translation.store store) =
        (machine.start op store).translated translation)
    (resumed : ∀ frame reply store, machine.resume (translation.frame frame) reply
      (translation.store store) = (machine.resume frame reply store).translated translation)
    (fuel : Nat)
    (allowed : ∀ op depth, .began op depth ∈ (machine.run fuel config).trace → Allowed op) :
    machine.run fuel (config.translated translation) =
      (machine.run fuel config).translated translation := by
  induction fuel generalizing config with
  | zero => rfl
  | succ fuel ih =>
      have step : machine.step? (config.translated translation) =
          (machine.step? config).map (Config.translated translation) := by
        apply step?_translated _ resumed
        intro op next script
        exact started op _ (allowed op _ (began_mem_run script fuel))
      rw [run] at allowed
      rw [run, run, step]
      cases stepped : machine.step? config with
      | none => rfl
      | some after =>
          rw [stepped] at allowed
          exact ih allowed

end Machine

end Debounce
