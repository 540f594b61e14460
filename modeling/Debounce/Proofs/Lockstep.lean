import Debounce.Proofs.Run

/-!
# Runs in lockstep

Two runs of a machine from different stores. If every section of an operation replies the same on
both sides, goes on in the same way and reports what looks the same, the runs take the same steps,
whatever the stores are otherwise. Operations that would tell the stores apart may be left out: what
matters is that they do not begin.
-/

namespace Debounce

variable {Op R Store Frame Event Seen : Type}

/-- The moment, with its event as it is seen. -/
def Moment.seen (view : Event → Seen) : Moment Op R Event → Moment Op R Seen
  | .began op depth => .began op depth
  | .event told => .event (view told)
  | .ended op reply depth => .ended op reply depth

theorem Moment.seen_id : Moment.seen (fun told : Event => told) = (id : Moment Op R Event → _) := by
  funext moment
  cases moment <;> rfl

namespace Machine

/-- The effects look the same, go on in the same way, and leave stores that are alike. -/
structure EffectsAgree (view : Event → Seen) (Alike : Store → Store → Prop)
    (effect other : Effect Op R Store Frame Event) : Prop where
  store : Alike effect.store other.store
  events : other.events.map view = effect.events.map view
  next : other.next = effect.next

/-- The configurations look the same and go on in the same way, and their stores are alike. -/
structure Lockstep (view : Event → Seen) (Alike : Store → Store → Prop)
    (config other : Config Op R Store Frame Event) : Prop where
  store : Alike config.store other.store
  runs : other.runs = config.runs
  script : other.script = config.script
  stack : other.stack = config.stack
  trace : other.trace.map (Moment.seen view) = config.trace.map (Moment.seen view)

variable {machine : Machine Op R Store Frame Event}
variable {view : Event → Seen} {Alike Like : Store → Store → Prop}
variable {config other third : Config Op R Store Frame Event}
variable {effect opposite : Effect Op R Store Frame Event}

theorem EffectsAgree.moments (agree : EffectsAgree view Alike effect opposite) (op : Op)
    (depth : Nat) :
    (opposite.moments op depth).map (Moment.seen view) =
      (effect.moments op depth).map (Moment.seen view) := by
  have events (told : List Event) :
      (told.map (Moment.event : Event → Moment Op R Event)).map (Moment.seen view) =
        (told.map view).map Moment.event := by
    rw [List.map_map, List.map_map]
    rfl
  rw [Effect.moments, Effect.moments, List.map_append, List.map_append, events, events,
    agree.events, agree.next]

theorem EffectsAgree.settle (agree : EffectsAgree view Alike effect opposite) (op : Op)
    (next : R → Script Op R) (locked : Lockstep view Like config other) :
    Lockstep view Alike (Machine.settle config op next effect)
      (Machine.settle other op next opposite) := by
  constructor
  · rw [settle_store, settle_store]
    exact agree.store
  · cases ending : effect.next <;>
      simp [Machine.settle, agree.next, ending, locked.runs]
  · cases ending : effect.next <;>
      simp [Machine.settle, agree.next, ending]
  · rw [settle_stack, settle_stack, agree.next, locked.stack]
  · rw [settle_trace, settle_trace, List.map_append, List.map_append, locked.trace, locked.stack,
      agree.moments]

theorem Lockstep.record (locked : Lockstep view Alike config other)
    (moment : Moment Op R Event) :
    Lockstep view Alike { config with trace := config.trace ++ [moment] }
      { other with trace := other.trace ++ [moment] } := by
  refine ⟨locked.store, locked.runs, locked.script, locked.stack, ?_⟩
  rw [List.map_append, List.map_append, locked.trace]

theorem Lockstep.trans {Beyond : Store → Store → Prop}
    (compose : ∀ a b c, Alike a b → Like b c → Beyond a c)
    (first : Lockstep view Alike config other) (second : Lockstep view Like other third) :
    Lockstep view Beyond config third :=
  ⟨compose _ _ _ first.store second.store, second.runs.trans first.runs,
    second.script.trans first.script, second.stack.trans first.stack,
    second.trace.trans first.trace⟩

/-- What is the same is seen to be the same. -/
theorem Lockstep.as_seen (locked : Lockstep (fun told => told) Alike config other)
    (view : Event → Seen) : Lockstep view Alike config other := by
  refine ⟨locked.store, locked.runs, locked.script, locked.stack, ?_⟩
  have same := locked.trace
  rw [Moment.seen_id, List.map_id, List.map_id] at same
  rw [same]

/-- Configurations in lockstep whose events are the same differ in their stores alone. -/
theorem Lockstep.eq_with_store (locked : Lockstep (fun told => told) Alike config other) :
    other = { config with store := other.store } := by
  rcases locked with ⟨-, runs, script, stack, trace⟩
  rw [Moment.seen_id, List.map_id, List.map_id] at trace
  cases config
  cases other
  simp_all

/-- Steps from configurations in lockstep lead to configurations in lockstep, if the operation that
begins, if there is one, keeps stores alike. -/
theorem step_lockstep
    (started : ∀ op next, config.script = .step op next → ∀ a b, Alike a b →
      EffectsAgree view Alike (machine.start op a) (machine.start op b))
    (resumed : ∀ frame reply a b, Alike a b →
      EffectsAgree view Alike (machine.resume frame reply a) (machine.resume frame reply b))
    (locked : Lockstep view Alike config other) :
    Option.Rel (Lockstep view Alike) (machine.step? config) (machine.step? other) := by
  rcases config with ⟨store, runs, script, stack, trace⟩
  rcases other with ⟨opposite, runs', script', stack', trace'⟩
  obtain ⟨rfl, rfl, rfl⟩ : runs' = runs ∧ script' = script ∧ stack' = stack :=
    ⟨locked.runs, locked.script, locked.stack⟩
  cases script' with
  | step op next =>
      apply Option.Rel.some
      exact (started op next rfl _ _ locked.store).settle op next (locked.record _)
  | runs work next => exact .some ⟨locked.store, rfl, rfl, rfl, locked.trace⟩
  | done reply =>
      cases stack' with
      | nil => exact .none
      | cons waiting below =>
          have popped : Lockstep view Alike
              (⟨store, runs', .done reply, below, trace⟩ : Config Op R Store Frame Event)
              ⟨opposite, runs', .done reply, below, trace'⟩ :=
            ⟨locked.store, rfl, rfl, rfl, locked.trace⟩
          apply Option.Rel.some
          exact (resumed waiting.frame reply _ _ locked.store).settle waiting.op waiting.next popped

/-- The operation that a script performs is recorded as begun. -/
theorem began_mem_run {op : Op} {next : R → Script Op R} (script : config.script = .step op next)
    (fuel : Nat) : .began op config.stack.length ∈ (machine.run (fuel + 1) config).trace := by
  rw [run]
  simp only [step?, script]
  apply (reaches_run machine fuel _).record_grows.subset
  simp

/-- Runs from configurations in lockstep stay in lockstep. Only the operations that begin need be
such that they keep stores alike. -/
theorem run_lockstep (Allowed : Op → Prop)
    (started : ∀ op a b, Allowed op → Alike a b →
      EffectsAgree view Alike (machine.start op a) (machine.start op b))
    (resumed : ∀ frame reply a b, Alike a b →
      EffectsAgree view Alike (machine.resume frame reply a) (machine.resume frame reply b))
    (fuel : Nat)
    (allowed : ∀ op depth, .began op depth ∈ (machine.run fuel config).trace → Allowed op)
    (locked : Lockstep view Alike config other) :
    Lockstep view Alike (machine.run fuel config) (machine.run fuel other) := by
  induction fuel generalizing config other with
  | zero => exact locked
  | succ fuel ih =>
      have begins (op : Op) (next : R → Script Op R) (script : config.script = .step op next) :
          Allowed op :=
        allowed op config.stack.length (began_mem_run script fuel)
      have steps : Option.Rel (Lockstep view Alike) (machine.step? config) (machine.step? other) :=
        step_lockstep (fun op next script a b => started op a b (begins op next script)) resumed
          locked
      rw [run] at allowed
      rw [run, run]
      generalize machine.step? config = after, machine.step? other = opposite at steps allowed
      cases steps with
      | none => exact locked
      | some both => exact ih allowed both

/-! ## Runs that differ in their stores alone -/

section Alike

variable (Alike : Store → Store → Prop)

/-- Two configurations that differ in their stores alone, which are alike. -/
structure ConfigsAlike (config other : Config Op R Store Frame Event) : Prop where
  store : Alike config.store other.store
  rest : other = { config with store := other.store }

/-- Two effects that differ in their stores alone, which are alike. -/
structure EffectsAlike (effect other : Effect Op R Store Frame Event) : Prop where
  store : Alike effect.store other.store
  rest : other = { effect with store := other.store }

variable {Alike}

/-- Effects that differ in their stores alone look the same. -/
theorem EffectsAlike.agree (alike : EffectsAlike Alike effect opposite) :
    EffectsAgree (fun told => told) Alike effect opposite := by
  refine ⟨alike.store, ?_, ?_⟩
  · rw [alike.rest]
  · rw [alike.rest]

/-- Effects whose events are the same differ in their stores alone. -/
theorem EffectsAgree.alike (agree : EffectsAgree (fun told => told) Alike effect opposite) :
    EffectsAlike Alike effect opposite := by
  rcases agree with ⟨store, events, next⟩
  rw [List.map_id', List.map_id'] at events
  exact ⟨store, by rw [← events, ← next]⟩

/-- Runs from alike stores stay alike if every section of an operation keeps stores alike, reports
the same and goes on in the same way. -/
theorem run_alike
    (started : ∀ op a b, Alike a b → EffectsAlike Alike (machine.start op a) (machine.start op b))
    (resumed : ∀ frame reply a b, Alike a b →
      EffectsAlike Alike (machine.resume frame reply a) (machine.resume frame reply b))
    (fuel : Nat) (alike : ConfigsAlike Alike config other) :
    ConfigsAlike Alike (machine.run fuel config) (machine.run fuel other) := by
  have locked : Lockstep (fun told => told) Alike config other := by
    rw [alike.rest]
    exact ⟨alike.store, rfl, rfl, rfl, rfl⟩
  have runs := run_lockstep (fun _ => True) (fun op a b _ stores => (started op a b stores).agree)
    (fun frame reply a b stores => (resumed frame reply a b stores).agree) fuel
    (fun _ _ _ => trivial) locked
  exact ⟨runs.store, runs.eq_with_store⟩

end Alike

end Machine

end Debounce
