import Debounce.Machine

/-!
# Runs of machines

What a step does to the store and to the record of a run, whatever the operations are. The record
only grows, and a property of store and record that every section of an operation keeps holds in
every configuration that a run gets to.
-/

namespace Debounce

variable {Op R Store Frame Event : Type}

/-- Where an operation goes on after this section, if it does. -/
def Next.frame? : Next Op R Frame → Option Frame
  | .finish _ => none
  | .enter frame _ _ | .skip frame _ => some frame

/-- What the script becomes where an operation goes on. -/
def Next.script? : Next Op R Frame → Option (Script Op R)
  | .finish _ => none
  | .enter _ work arguments => some (work.body arguments)
  | .skip _ reply => some (.done reply)

/-- What a section of an operation adds to the record of a run. -/
def Effect.moments (effect : Effect Op R Store Frame Event) (op : Op) (depth : Nat) :
    List (Moment Op R Event) :=
  effect.events.map Moment.event ++
    match effect.next with
    | .finish reply => [.ended op reply depth]
    | .enter _ _ _ | .skip _ _ => []

theorem Effect.event_mem_moments {effect : Effect Op R Store Frame Event} {op : Op} {depth : Nat}
    {event : Event} :
    Moment.event event ∈ effect.moments op depth ↔ event ∈ effect.events := by
  rw [Effect.moments]
  split <;> simp

theorem Effect.began_not_mem_moments {effect : Effect Op R Store Frame Event} {op began : Op}
    {depth level : Nat} : Moment.began began level ∉ effect.moments op depth := by
  rw [Effect.moments]
  split <;> simp

namespace Machine

variable {machine : Machine Op R Store Frame Event}
variable {first middle last config : Config Op R Store Frame Event}

section Settle

variable (config) (op : Op) (next : R → Script Op R) (effect : Effect Op R Store Frame Event)

@[simp] theorem settle_store : (settle config op next effect).store = effect.store := by
  rw [settle]
  split <;> rfl

@[simp] theorem settle_trace :
    (settle config op next effect).trace =
      config.trace ++ effect.moments op config.stack.length := by
  cases ending : effect.next with
  | finish reply => simp [settle, Effect.moments, ending]
  | enter frame work arguments => simp [settle, Effect.moments, ending]
  | skip frame reply => simp [settle, Effect.moments, ending]

theorem settle_script {script : Script Op R} (goesOn : effect.next.script? = some script) :
    (settle config op next effect).script = script := by
  cases ending : effect.next with
  | finish reply => simp [ending, Next.script?] at goesOn
  | enter frame work arguments =>
      simpa [settle, ending, Next.script?] using goesOn
  | skip frame reply => simpa [settle, ending, Next.script?] using goesOn

theorem settle_script_of_enter {frame : Frame} {work : Work Op R} {arguments : Arguments}
    (entered : effect.next = .enter frame work arguments) :
    (settle config op next effect).script = work.body arguments :=
  settle_script _ _ _ _ (by rw [entered, Next.script?])

theorem settle_stack :
    (settle config op next effect).stack =
      (effect.next.frame?.map fun frame => ⟨op, frame, next⟩).toList ++ config.stack := by
  cases ending : effect.next with
  | finish reply => simp [settle, ending, Next.frame?]
  | enter frame work arguments => simp [settle, ending, Next.frame?]
  | skip frame reply => simp [settle, ending, Next.frame?]

theorem map_frame_settle_stack :
    (settle config op next effect).stack.map Suspended.frame =
      effect.next.frame?.toList ++ config.stack.map Suspended.frame := by
  rw [settle_stack]
  cases effect.next.frame? <;> rfl

/-- What is suspended after a section of an operation was so before, or it is the operation, which
goes on. -/
theorem mem_settle_stack {suspended : Suspended Op R Frame}
    (member : suspended ∈ (settle config op next effect).stack) :
    suspended ∈ config.stack ∨
      suspended.op = op ∧ effect.next.frame? = some suspended.frame := by
  rw [settle_stack, List.mem_append, Option.mem_toList, Option.map_eq_some_iff] at member
  rcases member with ⟨frame, goesOn, rfl⟩ | before
  · exact .inr ⟨rfl, goesOn⟩
  · exact .inl before

theorem frame_of_settle_stack {waiting : Suspended Op R Frame}
    {below : List (Suspended Op R Frame)} {frame : Frame}
    (waits : (settle config op next effect).stack = waiting :: below)
    (goesOn : effect.next.frame? = some frame) : frame = waiting.frame := by
  rw [settle_stack, goesOn] at waits
  exact congrArg Suspended.frame (List.cons.inj waits).1

end Settle

/-- What a step of a run can be. -/
inductive Step (machine : Machine Op R Store Frame Event) (config : Config Op R Store Frame Event) :
    Config Op R Store Frame Event → Prop where
  /-- The script performs an operation. -/
  | start {op : Op} {next : R → Script Op R} :
      config.script = .step op next →
      Step machine config
        (settle { config with trace := config.trace ++ [.began op config.stack.length] } op next
          (machine.start op config.store))
  /-- The script asks how often a work has run. -/
  | ask {work : WorkId} {next : Nat → Script Op R} :
      config.script = .runs work next →
      Step machine config { config with script := next (config.runs work) }
  /-- The script has ended, and the operation that waits for it goes on. -/
  | resume {reply : R} {op : Op} {frame : Frame} {next : R → Script Op R}
      {rest : List (Suspended Op R Frame)} :
      config.script = .done reply → config.stack = ⟨op, frame, next⟩ :: rest →
      Step machine config
        (settle { config with stack := rest } op next (machine.resume frame reply config.store))

theorem step_of_step? (stepped : machine.step? config = some last) : Step machine config last := by
  rw [step?] at stepped
  split at stepped
  · next script => exact Option.some.inj stepped ▸ .start script
  · next script => exact Option.some.inj stepped ▸ .ask script
  · next script =>
      split at stepped
      · exact absurd stepped (by simp)
      · next stack => exact Option.some.inj stepped ▸ .resume script stack

/-- What the step leaves that begins an operation. -/
theorem start_of_step? {op : Op} {next : R → Script Op R} (script : config.script = .step op next)
    (stepped : machine.step? config = some last) :
    last.store = (machine.start op config.store).store ∧
      last.trace = config.trace ++ .began op config.stack.length ::
        (machine.start op config.store).moments op config.stack.length := by
  simp only [step?, script, Option.some.injEq] at stepped
  rw [← stepped]
  simp

theorem Step.record_grows (step : Step machine config last) : config.trace <+: last.trace := by
  cases step with
  | start _ => simp
  | ask _ => simp
  | resume _ _ => simp

namespace Reaches

theorem trans (earlier : machine.Reaches first middle) (later : machine.Reaches middle last) :
    machine.Reaches first last := by
  induction later with
  | refl => exact earlier
  | step _ stepped ih => exact ih.step stepped

/-- A run is at its beginning, or it has taken a first step. -/
theorem first_step (reaches : machine.Reaches first last) :
    first = last ∨ ∃ next, machine.step? first = some next ∧ machine.Reaches next last := by
  induction reaches with
  | refl => exact .inl rfl
  | step _ stepped ih =>
      right
      rcases ih with rfl | ⟨next, begins, later⟩
      · exact ⟨_, stepped, .refl⟩
      · exact ⟨next, begins, later.step stepped⟩

/-- A run only adds to its record. -/
theorem record_grows (reaches : machine.Reaches first last) : first.trace <+: last.trace := by
  induction reaches with
  | refl => exact List.prefix_refl _
  | step _ stepped ih => exact ih.trans (step_of_step? stepped).record_grows

/-- A property of the store, of the frames that are suspended and of the record is kept by a run if
every section of an operation keeps it. -/
theorem keeps_frames (reaches : machine.Reaches first last)
    (Inv : Store → List Frame → List (Moment Op R Event) → Prop)
    (started : ∀ op depth store frames trace, Inv store frames trace →
      Inv (machine.start op store).store ((machine.start op store).next.frame?.toList ++ frames)
        (trace ++ .began op depth :: (machine.start op store).moments op depth))
    (resumed : ∀ op frame reply depth store frames trace, Inv store (frame :: frames) trace →
      Inv (machine.resume frame reply store).store
        ((machine.resume frame reply store).next.frame?.toList ++ frames)
        (trace ++ (machine.resume frame reply store).moments op depth))
    (initial : Inv first.store (first.stack.map Suspended.frame) first.trace) :
    Inv last.store (last.stack.map Suspended.frame) last.trace := by
  induction reaches with
  | refl => exact initial
  | step _ stepped ih =>
      cases step_of_step? stepped with
      | start _ => simpa [map_frame_settle_stack] using started _ _ _ _ _ ih
      | ask _ => exact ih
      | resume _ stack =>
          rw [stack] at ih
          simpa [map_frame_settle_stack] using resumed _ _ _ _ _ _ _ ih

/-- A property of store and record that every section of an operation keeps is kept by a run. -/
theorem keeps (reaches : machine.Reaches first last)
    (Inv : Store → List (Moment Op R Event) → Prop)
    (started : ∀ op depth store trace, Inv store trace →
      Inv (machine.start op store).store
        (trace ++ .began op depth :: (machine.start op store).moments op depth))
    (resumed : ∀ op frame reply depth store trace, Inv store trace →
      Inv (machine.resume frame reply store).store
        (trace ++ (machine.resume frame reply store).moments op depth))
    (initial : Inv first.store first.trace) : Inv last.store last.trace :=
  reaches.keeps_frames (fun store _ trace => Inv store trace)
    (fun op depth store _ => started op depth store)
    (fun op frame reply depth store _ => resumed op frame reply depth store) initial

/-- A property of the store that every section of an operation keeps is kept by a run. -/
theorem keeps_store (reaches : machine.Reaches first last) (Inv : Store → Prop)
    (started : ∀ op store, Inv store → Inv (machine.start op store).store)
    (resumed : ∀ frame reply store, Inv store → Inv (machine.resume frame reply store).store)
    (initial : Inv first.store) : Inv last.store :=
  reaches.keeps (fun store _ => Inv store) (fun op _ store _ => started op store)
    (fun _ frame reply _ store _ => resumed frame reply store) initial

/-- What holds of every frame at which an operation comes to go on, holds of the operations that are
suspended. -/
theorem waits (reaches : machine.Reaches first last) (Waits : Op → Frame → Prop)
    (started : ∀ op store frame, (machine.start op store).next.frame? = some frame → Waits op frame)
    (resumed : ∀ op frame reply store later, Waits op frame →
      (machine.resume frame reply store).next.frame? = some later → Waits op later)
    (outermost : first.stack = []) : ∀ waiting ∈ last.stack, Waits waiting.op waiting.frame := by
  induction reaches with
  | refl => simp [outermost]
  | step _ stepped ih =>
      cases step_of_step? stepped with
      | start _ =>
          intro waiting member
          rcases mem_settle_stack _ _ _ _ member with before | ⟨rfl, goesOn⟩
          · exact ih waiting before
          · exact started _ _ _ goesOn
      | ask _ => exact ih
      | @resume reply op frame next rest _ stack =>
          rw [stack] at ih
          intro waiting member
          rcases mem_settle_stack _ _ _ _ member with before | ⟨rfl, goesOn⟩
          · exact ih waiting (List.mem_cons_of_mem _ before)
          · exact resumed _ _ _ _ _ (ih ⟨waiting.op, frame, next⟩ List.mem_cons_self) goesOn

/-- An invariant need not be kept by operations that go on, unless they are of a kind that may. -/
theorem keeps_suspended (reaches : machine.Reaches first last) (Suspends : Op → Prop)
    (Inv : Store → List (Moment Op R Event) → Prop)
    (suspended : ∀ op store frame, (machine.start op store).next.frame? = some frame → Suspends op)
    (started : ∀ op depth store trace, Inv store trace →
      Inv (machine.start op store).store
        (trace ++ .began op depth :: (machine.start op store).moments op depth))
    (resumed : ∀ op frame reply depth store trace, Suspends op → Inv store trace →
      Inv (machine.resume frame reply store).store
        (trace ++ (machine.resume frame reply store).moments op depth))
    (initial : Inv first.store first.trace) (outermost : first.stack = []) :
    Inv last.store last.trace := by
  suffices kept : Inv last.store last.trace ∧ ∀ waiting ∈ last.stack, Suspends waiting.op from kept.1
  induction reaches with
  | refl => exact ⟨initial, by simp [outermost]⟩
  | step _ stepped ih =>
      rcases ih with ⟨kept, open_⟩
      cases step_of_step? stepped with
      | start _ =>
          refine ⟨by simpa using started _ _ _ _ kept, ?_⟩
          intro waiting member
          rcases mem_settle_stack _ _ _ _ member with before | ⟨rfl, goesOn⟩
          · exact open_ waiting before
          · exact suspended _ _ _ goesOn
      | ask _ => exact ⟨kept, open_⟩
      | @resume reply op frame next rest _ stack =>
          rw [stack] at open_
          have suspends : Suspends op := open_ ⟨op, frame, next⟩ List.mem_cons_self
          refine ⟨by simpa using resumed _ _ _ _ _ _ suspends kept, ?_⟩
          intro waiting member
          rcases mem_settle_stack _ _ _ _ member with before | ⟨rfl, _⟩
          · exact open_ waiting (List.mem_cons_of_mem _ before)
          · exact suspends

end Reaches

/-- Running for a number of steps gets to a configuration of the run. -/
theorem reaches_run (machine : Machine Op R Store Frame Event) (fuel : Nat)
    (first : Config Op R Store Frame Event) : machine.Reaches first (machine.run fuel first) := by
  induction fuel generalizing first with
  | zero => exact .refl
  | succ fuel ih =>
      rw [run]
      split
      · exact .refl
      · next config stepped => exact (Reaches.refl.step stepped).trans (ih config)

/-! ## Where runs go on -/

theorem settle_record (config : Config Op R Store Frame Event) (op : Op) (next : R → Script Op R)
    (effect : Effect Op R Store Frame Event) (record : List (Moment Op R Event)) :
    settle { config with trace := record } op next effect =
      { settle config op next effect with
        trace := record ++ effect.moments op config.stack.length } := by
  cases ending : effect.next <;> simp [settle, ending, Effect.moments]

/-- What a step does and adds to the record does not depend on what has been recorded before. -/
theorem step?_record (machine : Machine Op R Store Frame Event)
    (config : Config Op R Store Frame Event) (record : List (Moment Op R Event)) :
    machine.step? { config with trace := record } =
      (machine.step? config).map fun last =>
        { last with trace := record ++ last.trace.drop config.trace.length } := by
  rcases config with ⟨store, runs, script, stack, trace⟩
  cases script with
  | step op next =>
      have settled (earlier : List (Moment Op R Event)) :=
        settle_record ⟨store, runs, .step op next, stack, []⟩ op next (machine.start op store)
          (earlier ++ [.began op stack.length])
      simp only [step?, Option.map_some]
      rw [settled record, settled trace]
      simp
  | runs work next => simp [step?]
  | done reply =>
      cases stack with
      | nil => rfl
      | cons waiting rest =>
          have settled (earlier : List (Moment Op R Event)) :=
            settle_record ⟨store, runs, .done reply, rest, []⟩ waiting.op waiting.next
              (machine.resume waiting.frame reply store) earlier
          simp only [step?, Option.map_some]
          rw [settled record, settled trace]
          simp

/-- What a run does and adds to the record does not depend on what has been recorded before. -/
theorem run_record (machine : Machine Op R Store Frame Event) (fuel : Nat)
    (config : Config Op R Store Frame Event) (record : List (Moment Op R Event)) :
    machine.run fuel { config with trace := record } =
      { machine.run fuel config with
        trace := record ++ (machine.run fuel config).trace.drop config.trace.length } := by
  induction fuel generalizing config record with
  | zero => simp [run]
  | succ fuel ih =>
      rw [run, run, step?_record]
      cases stepped : machine.step? config with
      | none => simp
      | some next =>
          obtain ⟨moments, recorded⟩ := (step_of_step? stepped).record_grows
          obtain ⟨later, added⟩ := (reaches_run machine fuel next).record_grows
          dsimp only [Option.map_some]
          rw [ih next (record ++ next.trace.drop config.trace.length), ← added, ← recorded]
          simp

end Machine

/-- A work that replies at once. -/
def Work.replying (id : WorkId) (reply : R) : Work Op R where
  id := id
  name := "replying"
  body _ := .done reply

/-- A work that does nothing. -/
def Work.resting {τ : Type} (id : WorkId) : Work Op (Reply τ) := .replying id (.ok .nothing)

end Debounce
