import Debounce.Proofs.Completion
import Debounce.Proofs.Quiet

/-!
# Operations that come to their end

Between the beginning and the end of an operation the script of a work may run, which performs
operations of its own and comes to its end in turn. Such courses are put together from their parts:
a script from its first operation and what is left of it, and an operation from its first section,
the script that it runs and the sections after that.
-/

namespace Debounce.Machine

variable {Op R Store Frame Event : Type}

/-- The operation that begins in the one state has ended in the other one, where the script around
it goes on with its reply, and what it recorded in between is given. -/
structure Performs (machine : Machine Op R Store Frame Event) (op : Op) (reply : R)
    (before after : Config Op R Store Frame Event) (during : List (Moment Op R Event)) : Prop where
  reaches : machine.Reaches before after
  goesOn : ∃ next, before.script = .step op next ∧ after.script = next reply
  stack : after.stack = before.stack
  trace : after.trace = before.trace ++
    .began op before.stack.length :: (during ++ [.ended op reply before.stack.length])
  /-- No operation ends at its depth before it does. -/
  lasts : ∀ moment ∈ during, moment.endsAt before.stack.length = false

/-- From a section of the operation on, a run gets to its end. -/
structure Closes (machine : Machine Op R Store Frame Event) (op : Op) (next : R → Script Op R)
    (reply : R) (around section_ last : Config Op R Store Frame Event)
    (during : List (Moment Op R Event)) : Prop where
  reaches : machine.Reaches section_ last
  script : last.script = next reply
  stack : last.stack = around.stack
  trace : last.trace = around.trace ++ (during ++ [.ended op reply around.stack.length])
  lasts : ∀ moment ∈ during, moment.endsAt around.stack.length = false

/-- The script that runs in the one state has come to its end in the other one, and what it recorded
in between is given. -/
structure Returns (machine : Machine Op R Store Frame Event) (reply : R)
    (before after : Config Op R Store Frame Event) (during : List (Moment Op R Event)) : Prop where
  reaches : machine.Reaches before after
  script : after.script = .done reply
  stack : after.stack = before.stack
  trace : after.trace = before.trace ++ during
  /-- No operation around the script ends. -/
  lasts : ∀ moment ∈ during, ∀ depth < before.stack.length, moment.endsAt depth = false

variable {machine : Machine Op R Store Frame Event} {op : Op} {next : R → Script Op R}
variable {reply answer : R} {before ended last around : Config Op R Store Frame Event}
variable {effect : Effect Op R Store Frame Event} {inside during : List (Moment Op R Event)}

theorem returns_done (script : before.script = .done reply) :
    machine.Returns reply before before [] :=
  ⟨.refl, script, rfl, by simp, by simp⟩

theorem Returns.ask {work : WorkId} {asked : Nat → Script Op R}
    (script : before.script = .runs work asked)
    (rest : machine.Returns reply { before with script := asked (before.runs work) } last during) :
    machine.Returns reply before last during := by
  have stepped : machine.step? before = some { before with script := asked (before.runs work) } := by
    rw [step?, script]
  exact ⟨(Reaches.refl.step stepped).trans rest.reaches, rest.script, rest.stack, rest.trace,
    rest.lasts⟩

/-- An operation that finishes at once is followed by the rest of the script. -/
theorem Returns.start (script : before.script = .step op next)
    (finishes : (machine.start op before.store).next = .finish answer)
    (rest : machine.Returns reply
      { before with
        store := (machine.start op before.store).store
        script := next answer
        trace := before.trace ++ .began op before.stack.length ::
          (machine.start op before.store).moments op before.stack.length } last during) :
    machine.Returns reply before last
      (.began op before.stack.length ::
        ((machine.start op before.store).moments op before.stack.length ++ during)) := by
  have stepped : machine.step? before = some
      { before with
        store := (machine.start op before.store).store
        script := next answer
        trace := before.trace ++ .began op before.stack.length ::
          (machine.start op before.store).moments op before.stack.length } := by
    simp only [step?, script, settle, finishes, Effect.moments, List.append_assoc,
      List.cons_append, List.nil_append]
  refine ⟨(Reaches.refl.step stepped).trans rest.reaches, rest.script, rest.stack, ?_, ?_⟩
  · rw [rest.trace, List.append_assoc, List.cons_append]
  · intro moment member depth shallow
    rcases List.mem_cons.mp member with rfl | member
    · rfl
    · rcases List.mem_append.mp member with own | later
      · rw [Effect.moments, finishes] at own
        rcases List.mem_append.mp own with told | ends
        · obtain ⟨event, _, rfl⟩ := List.mem_map.mp told
          rfl
        · obtain rfl := List.mem_singleton.mp ends
          simpa [Moment.endsAt] using (Nat.ne_of_lt shallow).symm
      · exact rest.lasts moment later depth shallow

/-- A section that finishes the operation closes it. -/
theorem closes_finish (finishes : effect.next = .finish reply) :
    machine.Closes op next reply around (settle around op next effect)
      (settle around op next effect) (effect.events.map Moment.event) := by
  refine ⟨.refl, ?_, ?_, ?_, ?_⟩
  · simp [settle, finishes]
  · simp [settle, finishes]
  · simp [Effect.moments, finishes]
  · intro moment told
    obtain ⟨event, _, rfl⟩ := List.mem_map.mp told
    rfl

/-- When the script of the work that a section runs has come to its end, the operation goes on. -/
theorem Returns.goes_on {frame : Frame} {work : Work Op R} {arguments : Arguments}
    (enters : effect.next = .enter frame work arguments)
    (returns : machine.Returns answer (settle around op next effect) ended inside) :
    machine.step? ended = some (settle { ended with stack := around.stack } op next
      (machine.resume frame answer ended.store)) := by
  have stack : ended.stack = ⟨op, frame, next⟩ :: around.stack := by
    rw [returns.stack, settle_stack, enters]
    rfl
  rw [step?, returns.script, stack]

/-- A section that runs a work is followed by what the work does, and by the sections after that. -/
theorem Closes.enter {frame : Frame} {work : Work Op R} {arguments : Arguments}
    (enters : effect.next = .enter frame work arguments)
    (returns : machine.Returns answer (settle around op next effect) ended inside)
    (rest : machine.Closes op next reply { ended with stack := around.stack }
      (settle { ended with stack := around.stack } op next
        (machine.resume frame answer ended.store)) last during) :
    machine.Closes op next reply around (settle around op next effect) last
      (effect.events.map Moment.event ++ (inside ++ during)) := by
  have deeper : around.stack.length < (settle around op next effect).stack.length := by
    rw [settle_stack, enters]
    exact Nat.lt_succ_self _
  refine ⟨(returns.reaches.step (returns.goes_on enters)).trans rest.reaches, rest.script, rest.stack,
    ?_, ?_⟩
  · rw [rest.trace, returns.trace, settle_trace, Effect.moments, enters]
    simp
  · intro moment member
    rcases List.mem_append.mp member with told | member
    · obtain ⟨event, _, rfl⟩ := List.mem_map.mp told
      rfl
    · rcases List.mem_append.mp member with nested | later
      · exact returns.lasts moment nested _ deeper
      · exact rest.lasts moment later

/-- An operation is performed if it gets from its first section to its end. -/
theorem Closes.performs (script : before.script = .step op next)
    (closes : machine.Closes op next reply
      { before with trace := before.trace ++ [.began op before.stack.length] }
      (settle { before with trace := before.trace ++ [.began op before.stack.length] } op next
        (machine.start op before.store)) last during) :
    machine.Performs op reply before last during := by
  have begun : machine.step? before = some
      (settle { before with trace := before.trace ++ [.began op before.stack.length] } op next
        (machine.start op before.store)) := by
    rw [step?, script]
  refine ⟨(Reaches.refl.step begun).trans closes.reaches, ⟨next, script, closes.script⟩,
    closes.stack, ?_, closes.lasts⟩
  rw [closes.trace, List.append_assoc, List.singleton_append]

/-- An operation that a run performs has the same outcome on its own. -/
theorem Performs.finishes {store : Store} {runs : Runs}
    (performs : machine.Performs op reply
      { store := store, runs := runs, script := .perform op } last during) :
    machine.Finishes op store runs ⟨reply, last.store, last.runs, last.trace⟩ := by
  obtain ⟨next, begun, ended⟩ := performs.goesOn
  obtain ⟨_, rfl⟩ := Script.step.inj begun
  have stack : last.stack = [] := performs.stack
  have final : machine.step? last = none := by rw [step?, ended, stack]
  filter_upwards [run_of_reaches performs.reaches final] with fuel ran
  rw [perform?, ran, ended, stack]

end Debounce.Machine
