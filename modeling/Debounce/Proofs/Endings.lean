import Debounce.Proofs.Quiet

/-!
# How operations end

An operation whose works are quiet is told by its sections: where a section runs a work, the next
one begins with what the work returns. Told in this way it has an ending, which is its reply, the
store and the counts of runs that it leaves, and the events that were reported on the way.
-/

namespace Debounce

variable {Op R Store Frame Event τ : Type}

/-- The events of a record. -/
def reported (history : List (Moment Op R Event)) : List Event :=
  history.filterMap fun
    | .event told => some told
    | .began _ _ | .ended _ _ _ => none

theorem reported_append (history more : List (Moment Op R Event)) :
    reported (history ++ more) = reported history ++ reported more :=
  List.filterMap_append

theorem reported_moments (effect : Effect Op R Store Frame Event) (op : Op) (depth : Nat) :
    reported (effect.moments op depth) = effect.events := by
  have told : reported (effect.events.map (Moment.event : Event → Moment Op R Event)) =
      effect.events := by
    rw [reported, List.filterMap_map]
    exact List.filterMap_some
  rw [Effect.moments, reported_append, told]
  cases effect.next <;> simp [reported]

theorem reported_eq_nil {history : List (Moment Op R Event)}
    (silent : ∀ told, .event told ∉ history) : reported history = [] := by
  rw [reported, List.filterMap_eq_nil_iff]
  intro moment member
  cases moment with
  | event told => exact absurd member (silent told)
  | began | ended => rfl

/-- The ending of an operation. -/
structure Ending (τ Store Event : Type) where
  reply : Reply τ
  store : Store
  runs : Runs
  events : List Event := []

namespace Machine

variable {machine : Machine Op (Reply τ) Store Frame Event} {clock : Store → τ} {op : Op}
variable {effect : Effect Op (Reply τ) Store Frame Event} {runs : Runs}

/-- The ending of an operation that has been performed. -/
def Performed.ending (performed : Performed Op (Reply τ) Store Event) : Ending τ Store Event where
  reply := performed.reply
  store := performed.store
  runs := performed.runs
  events := reported performed.trace

/-- From a section with this effect on, an operation comes to the ending if its works are quiet. -/
inductive Ends [Clocked Op] (machine : Machine Op (Reply τ) Store Frame Event) (clock : Store → τ) :
    Effect Op (Reply τ) Store Frame Event → Runs → Ending τ Store Event → Prop where
  | finish {effect : Effect Op (Reply τ) Store Frame Event} {runs : Runs} {reply : Reply τ} :
      effect.next = .finish reply →
      Ends machine clock effect runs
        { reply := reply, store := effect.store, runs := runs, events := effect.events }
  | enter {effect : Effect Op (Reply τ) Store Frame Event} {runs : Runs} {frame : Frame}
      {work : QuietWork τ} {ending : Ending τ Store Event} :
      effect.next = .enter frame work.returning {} →
      Ends machine clock
        (machine.resume frame (.ok (work.returned runs (clock effect.store))) effect.store)
        (runs.count work.id) ending →
      Ends machine clock effect runs { ending with events := effect.events ++ ending.events }

variable [Clocked Op] {ending : Ending τ Store Event}

/-- A run gets to the ending, if nothing is suspended around the operation. -/
theorem Ends.reaches (shows : machine.Shows clock) (ends : machine.Ends clock effect runs ending)
    {config : Config Op (Reply τ) Store Frame Event} (counted : config.runs = runs)
    (outermost : config.stack = []) :
    ∃ moments : List (Moment Op (Reply τ) Event), reported moments = ending.events ∧
      machine.Reaches (settle config op .done effect)
        { store := ending.store, runs := ending.runs, script := .done ending.reply
          trace := config.trace ++ moments } := by
  induction ends generalizing config with
  | @finish effect runs reply ended =>
      have settled : settle config op .done effect =
          { store := effect.store, runs := runs, script := .done reply
            trace := config.trace ++ effect.moments op 0 } := by
        simp [settle, Effect.moments, ended, counted, outermost]
      rw [settled]
      exact ⟨effect.moments op 0, reported_moments effect op 0, .refl⟩
  | @enter effect runs frame work ending enters _ ih =>
      rcases reaches_resume shows enters counted outermost op with
        ⟨resumed, runs, stack, ⟨inside, trace, silent⟩, reaches⟩
      rcases ih runs stack with ⟨moments, told, ends⟩
      refine ⟨effect.moments op 0 ++ (inside ++ moments), ?_, ?_⟩
      · rw [reported_append, reported_append, reported_moments, reported_eq_nil silent, told,
          List.nil_append]
      · rw [trace] at ends
        rw [← List.append_assoc, ← List.append_assoc]
        exact reaches.trans ends

/-- With enough fuel the operation is performed to its ending. -/
theorem Ends.perform? {store : Store} (shows : machine.Shows clock)
    (ends : machine.Ends clock (machine.start op store) runs ending) :
    ∀ᶠ fuel in Filter.atTop,
      (machine.perform? fuel op store runs).map Performed.ending = some ending := by
  let first : Config Op (Reply τ) Store Frame Event :=
    { store := store, runs := runs, script := .perform op }
  let begun : Config Op (Reply τ) Store Frame Event := { first with trace := [.began op 0] }
  have starts : machine.step? first = some (settle begun op .done (machine.start op store)) := rfl
  have counted : begun.runs = runs := rfl
  obtain ⟨moments, told, reaches⟩ := ends.reaches shows counted rfl
  filter_upwards [run_of_reaches ((Reaches.refl.step starts).trans reaches) rfl] with fuel ended
  have events : reported (begun.trace ++ moments) = ending.events := told
  simp only [Machine.perform?, first, ended, Option.map_some, Performed.ending, events]

end Machine

end Debounce
