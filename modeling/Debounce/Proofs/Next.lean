import Debounce.Proofs.Agenda
import Debounce.Proofs.Clock

/-!
# The next timer

Which timer is next does not depend on how far ahead the deadline lies, as long as a timer is due
at all: a later deadline only lets in timers that are later than every timer that was due before.
-/

namespace Debounce

namespace Instant

variable {τ : Type} [Instant τ] {a b c : τ}

theorem lt_of_not_le [Lawful τ] (left : a ≤ a) (right : b ≤ b) (beyond : ¬ b ≤ a) : a < b :=
  Decidable.byContradiction fun late => beyond (Lawful.le_of_not_lt left right late)

variable [LawfulDeadlines τ]

theorem lt_of_le_of_lt (first : a ≤ b) (second : b < c) : a < c := by
  apply lt_of_not_le (Lawful.le_left first) (Lawful.le_right (Lawful.le_of_lt second))
  intro back
  exact LawfulDeadlines.not_lt (Lawful.le_trans back first) second

theorem lt_of_lt_of_le (first : a < b) (second : b ≤ c) : a < c := by
  apply lt_of_not_le (Lawful.le_left (Lawful.le_of_lt first)) (Lawful.le_right second)
  intro back
  exact LawfulDeadlines.not_lt (Lawful.le_trans second back) first

end Instant

namespace Agenda

open Instant

variable {τ κ : Type} [Instant τ]

section Due

variable {agenda : Agenda τ κ} {deadline : τ} {timer : Timer τ κ}

theorem due_iff :
    timer.due deadline = true ↔ timer.active = true ∧ timer.executionTime ≤ deadline := by
  simp [Timer.due]

/-- No timer is next if and only if no pending timer is due. -/
theorem fireNext?_eq_none :
    agenda.fireNext? deadline = none ↔
      ∀ id timer, agenda.get? id = some timer → timer.due deadline = false := by
  constructor
  · intro absent id timer stored
    cases due : timer.due deadline with
    | false => rfl
    | true =>
        rcases due_iff.mp due with ⟨active, early⟩
        exact absurd absent (fireNext?_ne_none stored active early)
  · intro late
    cases found : agenda.fireNext? deadline with
    | none => rfl
    | some fired =>
        rcases fireNext?_eq_some found with ⟨stored, active, early, _⟩
        exact absurd (late _ _ stored) (by simp [due_iff.mpr ⟨active, early⟩])

theorem next?_of_fireNext? {fired : Agenda τ κ} {id : TimerId}
    (found : agenda.fireNext? deadline = some (id, timer, fired)) :
    agenda.next? (Timer.due deadline) = some (id, timer) := by
  rw [fireNext?] at found
  split at found
  · cases found
  · next place other next =>
      cases found
      exact next

/-- The clock does not decide which timer is next. -/
theorem fireNext?_of_timers {other fired : Agenda τ κ} {id : TimerId}
    (timers : other.timers = agenda.timers)
    (found : agenda.fireNext? deadline = some (id, timer, fired)) :
    other.fireNext? deadline =
      some (id, timer, { fired with now := later other.now timer.executionTime }) := by
  rcases fireNext?_eq_some found with ⟨stored, _, _, claimed⟩
  have next : other.next? (Timer.due deadline) = some (id, timer) := by
    rw [next?, entries, timers]
    exact next?_of_fireNext? found
  have place : agenda.timers[id]? = some timer := stored
  rw [fireNext?, next, claimed]
  simp [claim, update, timers, place]

end Due

variable [LawfulDeadlines τ]

/-- A wider test that lets in later entries only has the same earliest entry. -/
theorem earliest?_filter {entries : List (TimerId × Timer τ κ)}
    {narrow wide : TimerId × Timer τ κ → Bool}
    (wider : ∀ entry, narrow entry = true → wide entry = true)
    (later : ∀ entry other, narrow entry = true → wide other = true → narrow other = false →
      entry.2.executionTime < other.2.executionTime)
    {first : TimerId × Timer τ κ} (found : earliest? (entries.filter narrow) = some first) :
    earliest? (entries.filter wide) = some first := by
  induction entries generalizing first with
  | nil => cases found
  | cons head rest ih =>
      cases passes : narrow head with
      | true =>
          rw [List.filter_cons_of_pos passes, earliest?] at found
          rw [List.filter_cons_of_pos (wider _ passes), earliest?]
          cases narrowed : earliest? (rest.filter narrow) with
          | some other => rwa [ih narrowed, ← narrowed]
          | none =>
              simp only [narrowed, Option.some.injEq] at found
              cases widened : earliest? (rest.filter wide) with
              | none => simp [found]
              | some other =>
                  rcases List.mem_filter.mp (earliest?_mem widened) with ⟨member, lets⟩
                  have fails := List.filter_eq_nil_iff.mp (earliest?_eq_none narrowed) other member
                  have after := later head other passes lets (by simpa using fails)
                  have notBefore := LawfulDeadlines.not_lt (Lawful.le_of_lt after)
                  rw [← found]
                  simp [notBefore]
      | false =>
          rw [List.filter_cons_of_neg (by simp [passes])] at found
          cases lets : wide head with
          | false => rw [List.filter_cons_of_neg (by simp [lets]), ih found]
          | true =>
              have own := (List.mem_filter.mp (earliest?_mem found)).2
              have earlier := later first head own lets passes
              rw [List.filter_cons_of_pos lets, earliest?, ih found]
              simp [earlier]

omit [LawfulDeadlines τ] in
/-- No entry is earlier than the earliest one. -/
theorem earliest?_le [Lawful τ] {entries : List (TimerId × Timer τ κ)}
    (comparable : ∀ entry ∈ entries, entry.2.executionTime ≤ entry.2.executionTime)
    {first : TimerId × Timer τ κ} (found : earliest? entries = some first) :
    ∀ entry ∈ entries, first.2.executionTime ≤ entry.2.executionTime := by
  induction entries generalizing first with
  | nil => cases found
  | cons head rest ih =>
      have own := comparable head List.mem_cons_self
      have others := fun entry member => comparable entry (List.mem_cons_of_mem _ member)
      rw [earliest?] at found
      cases following : earliest? rest with
      | none =>
          simp only [following, Option.some.injEq] at found
          rw [earliest?_eq_none following, ← found]
          simpa using own
      | some other =>
          simp only [following] at found
          have least := ih others following
          rw [List.forall_mem_cons]
          split at found
          · next earlier =>
              obtain rfl := Option.some.inj found
              exact ⟨Lawful.le_of_lt earlier, least⟩
          · next notEarlier =>
              obtain rfl := Option.some.inj found
              have ordered := others other (earliest?_mem following)
              have first := Lawful.le_of_not_lt ordered own notEarlier
              exact ⟨own, fun entry member => Lawful.le_trans first (least entry member)⟩

omit [LawfulDeadlines τ] in
/-- The timer that fires is no later than any other one that is due. -/
theorem fireNext?_le [Lawful τ] {agenda fired : Agenda τ κ} {deadline : τ} {id other : TimerId}
    {timer due : Timer τ κ} (found : agenda.fireNext? deadline = some (id, timer, fired))
    (stored : agenda.get? other = some due) (active : due.active = true)
    (early : due.executionTime ≤ deadline) : timer.executionTime ≤ due.executionTime := by
  have member : (other, due) ∈ agenda.entries.filter fun entry => entry.2.due deadline :=
    List.mem_filter.mpr ⟨mem_entries.mpr stored, due_iff.mpr ⟨active, early⟩⟩
  refine earliest?_le ?_ (next?_of_fireNext? found) _ member
  intro entry member
  exact Lawful.le_left (due_iff.mp (List.mem_filter.mp member).2).2

/-- With a later deadline the same timer is next. -/
theorem fireNext?_of_le {agenda fired : Agenda τ κ} {near far : τ} {id : TimerId}
    {timer : Timer τ κ} (ordered : near ≤ far)
    (found : agenda.fireNext? near = some (id, timer, fired)) :
    agenda.fireNext? far = some (id, timer, fired) := by
  have next := next?_of_fireNext? found
  have same : agenda.next? (Timer.due far) = some (id, timer) := by
    apply earliest?_filter _ _ next
    · intro entry due
      rcases due_iff.mp due with ⟨active, early⟩
      exact due_iff.mpr ⟨active, Lawful.le_trans early ordered⟩
    · intro entry other due lets late
      rcases due_iff.mp due with ⟨_, early⟩
      rcases due_iff.mp lets with ⟨active, inTime⟩
      apply lt_of_le_of_lt early
      apply lt_of_not_le (Lawful.le_left ordered) (Lawful.le_left inTime)
      intro early
      simp [due_iff.mpr ⟨active, early⟩] at late
  rw [fireNext?, same]
  rw [fireNext?, next] at found
  exact found

end Agenda

end Debounce
