import Debounce.Proofs.OneShot

/-!
# The queue of an agenda

The timers that are due at a deadline form a queue: the earlier one comes first, and of two that are
set for the same time the one that was created first. An agenda looks for the next timer afresh each
time, among timers in the order of their creation, whatever times they have been moved to. Taking
the next timer until none is due empties the queue from its head.
-/

namespace Debounce

variable {τ κ : Type} [Instant τ]

namespace Timer

/-- The timer after a sweep to the deadline: it has fired if it was due. -/
def swept (deadline : τ) (timer : Timer τ κ) : Timer τ κ :=
  if timer.due deadline then { timer with phase := .fired } else timer

theorem swept_of_not_due {deadline : τ} {timer : Timer τ κ} (late : timer.due deadline = false) :
    timer.swept deadline = timer := by
  simp [swept, late]

/-- A timer that has been taken is not due again. -/
theorem swept_claim {deadline : τ} {timer : Timer τ κ} (due : timer.due deadline = true) :
    timer.claim.2.swept deadline = timer.swept deadline := by
  have active : timer.active = true := (Agenda.due_iff.mp due).1
  have ended : timer.claim.2.due deadline = false := by simp [Timer.due]
  rw [swept_of_not_due ended, swept, if_pos due, claim, if_pos active]

end Timer

namespace Agenda

open Instant

/-- The entry comes before the other one: its time is earlier, or it is as early and was created
first. -/
def Precedes (first second : TimerId × Timer τ κ) : Prop :=
  first.2.executionTime < second.2.executionTime ∨
    first.2.executionTime ≤ second.2.executionTime ∧
      second.2.executionTime ≤ first.2.executionTime ∧ first.1 < second.1

instance (first second : TimerId × Timer τ κ) : Decidable (Precedes first second) :=
  inferInstanceAs (Decidable (_ ∨ _ ∧ _ ∧ _))

theorem Precedes.le [Lawful τ] {first second : TimerId × Timer τ κ}
    (precedes : Precedes first second) :
    first.2.executionTime ≤ second.2.executionTime := by
  rcases precedes with earlier | ⟨ordered, _, _⟩
  · exact Lawful.le_of_lt earlier
  · exact ordered

/-- The entries are those of the timers that are due at the deadline, in their order. -/
structure Queue (agenda : Agenda τ κ) (deadline : τ) (queue : List (TimerId × Timer τ κ)) :
    Prop where
  mem : ∀ id timer,
    (id, timer) ∈ queue ↔ agenda.get? id = some timer ∧ timer.due deadline = true
  sorted : queue.Pairwise Precedes

omit [Instant τ] in
/-- Entries are numbered in the order of their creation. -/
theorem entries_numbered (agenda : Agenda τ κ) :
    agenda.entries.Pairwise fun earlier later => earlier.1 < later.1 := by
  have places : agenda.entries.map Prod.fst = List.range' 0 agenda.timers.length := by
    rw [entries, List.map_map, ← List.zipIdx_map_snd 0 agenda.timers]
    rfl
  rw [← List.pairwise_map, places]
  exact List.pairwise_lt_range' 1

/-- The earliest entry comes before all others. -/
theorem earliest?_precedes [Lawful τ] {entries : List (TimerId × Timer τ κ)}
    (comparable : ∀ entry ∈ entries, entry.2.executionTime ≤ entry.2.executionTime)
    (numbered : entries.Pairwise fun earlier later => earlier.1 < later.1)
    {first : TimerId × Timer τ κ} (found : earliest? entries = some first) :
    ∀ entry ∈ entries, entry = first ∨ Precedes first entry := by
  induction entries generalizing first with
  | nil => cases found
  | cons head rest ih =>
      have own := comparable head List.mem_cons_self
      have others := fun entry member => comparable entry (List.mem_cons_of_mem _ member)
      have least := earliest?_le comparable found
      obtain ⟨before, numbered⟩ := List.pairwise_cons.mp numbered
      rw [earliest?] at found
      rw [List.forall_mem_cons]
      cases following : earliest? rest with
      | none =>
          simp only [following, Option.some.injEq] at found
          rw [earliest?_eq_none following]
          exact ⟨.inl found, by simp⟩
      | some other =>
          simp only [following] at found
          split at found
          · next earlier =>
              obtain rfl := Option.some.inj found
              exact ⟨.inr (.inl earlier), ih others numbered following⟩
          · obtain rfl := Option.some.inj found
            refine ⟨.inl rfl, ?_⟩
            intro entry member
            have ordered := least entry (List.mem_cons_of_mem _ member)
            by_cases tied : entry.2.executionTime ≤ head.2.executionTime
            · exact .inr (.inr ⟨ordered, tied, before entry member⟩)
            · exact .inr (.inl (lt_of_not_le own (others entry member) tied))

/-- The timer that is taken comes before all others that are due. -/
theorem fireNext?_precedes [Lawful τ] {agenda fired : Agenda τ κ} {deadline : τ}
    {id other : TimerId} {timer due : Timer τ κ}
    (found : agenda.fireNext? deadline = some (id, timer, fired))
    (stored : agenda.get? other = some due) (early : due.due deadline = true)
    (different : other ≠ id) : Precedes (id, timer) (other, due) := by
  have member : (other, due) ∈ agenda.entries.filter fun entry => entry.2.due deadline :=
    List.mem_filter.mpr ⟨mem_entries.mpr stored, early⟩
  have comparable : ∀ entry ∈ agenda.entries.filter fun entry => entry.2.due deadline,
      entry.2.executionTime ≤ entry.2.executionTime := by
    intro entry member
    exact Lawful.le_left (due_iff.mp (List.mem_filter.mp member).2).2
  have numbered := agenda.entries_numbered.filter fun entry => entry.2.due deadline
  rcases earliest?_precedes comparable numbered (next?_of_fireNext? found) _ member with
    same | precedes
  · exact absurd (congrArg Prod.fst same) different
  · exact precedes

theorem pendingCount_of_fireNext? {agenda fired : Agenda τ κ} {deadline : τ} {id : TimerId}
    {timer : Timer τ κ} (found : agenda.fireNext? deadline = some (id, timer, fired)) :
    fired.pendingCount < agenda.pendingCount := by
  obtain ⟨stored, active, _, rfl⟩ := fireNext?_eq_some found
  have counted := pendingCount_update stored Timer.claim
  simp only [active, Timer.active_claim, Bool.toNat_true, Bool.toNat_false, Nat.add_zero] at counted
  change (agenda.claim id).2.pendingCount < _
  rw [← counted, claim]
  exact Nat.lt_succ_self _

/-! ## Taking one timer after the other -/

/-- The timers that are taken until none is due. -/
inductive Drains (deadline : τ) : Agenda τ κ → List (TimerId × Timer τ κ) → Prop where
  | nil {agenda : Agenda τ κ} : agenda.fireNext? deadline = none → Drains deadline agenda []
  | cons {agenda fired : Agenda τ κ} {id : TimerId} {timer : Timer τ κ}
      {queue : List (TimerId × Timer τ κ)} :
      agenda.fireNext? deadline = some (id, timer, fired) → Drains deadline fired queue →
      Drains deadline agenda ((id, timer) :: queue)

/-- It comes to an end, since each timer that is taken is not pending any more. -/
theorem exists_drains (agenda : Agenda τ κ) (deadline : τ) :
    ∃ queue, Drains deadline agenda queue := by
  induction size : agenda.pendingCount using Nat.strong_induction_on generalizing agenda with
  | h count ih =>
      cases found : agenda.fireNext? deadline with
      | none => exact ⟨[], .nil found⟩
      | some next =>
          obtain ⟨id, timer, fired⟩ := next
          have fewer := pendingCount_of_fireNext? found
          rw [size] at fewer
          obtain ⟨queue, drains⟩ := ih fired.pendingCount fewer fired rfl
          exact ⟨_, .cons found drains⟩

section Drains

variable {agenda : Agenda τ κ} {deadline : τ} {queue : List (TimerId × Timer τ κ)}

theorem Drains.mem (drains : Drains deadline agenda queue) :
    ∀ id timer, (id, timer) ∈ queue ↔ agenda.get? id = some timer ∧ timer.due deadline = true := by
  induction drains with
  | nil absent =>
      intro id timer
      simpa using fireNext?_eq_none.mp absent id timer
  | @cons agenda fired first taken queue found _ ih =>
      obtain ⟨stored, active, early, _⟩ := fireNext?_eq_some found
      intro id timer
      rw [List.mem_cons, ih, get?_of_fireNext? found, Prod.mk.injEq]
      by_cases same : id = first
      · subst same
        have ended : ∀ timer, some taken.claim.2 = some timer → ¬ timer.due deadline = true := by
          rintro _ ⟨⟩
          simp [Timer.due]
        have due := due_iff.mpr ⟨active, early⟩
        grind
      · simp [same]

/-- What is taken is the queue. -/
theorem Drains.inOrder [Lawful τ] (drains : Drains deadline agenda queue) :
    agenda.Queue deadline queue := by
  refine ⟨drains.mem, ?_⟩
  induction drains with
  | nil _ => exact .nil
  | @cons agenda fired first taken queue found drains ih =>
      refine List.pairwise_cons.mpr ⟨?_, ih⟩
      rintro ⟨id, timer⟩ member
      obtain ⟨stored, due⟩ := (drains.mem id timer).mp member
      rw [get?_of_fireNext? found] at stored
      split at stored
      · obtain rfl := Option.some.inj stored
        simp [Timer.due] at due
      · next different => exact fireNext?_precedes found stored due different

/-- Taking the next timer makes no difference to what a sweep leaves. -/
theorem map_swept_of_fireNext? {fired : Agenda τ κ} {id : TimerId} {timer : Timer τ κ}
    (found : agenda.fireNext? deadline = some (id, timer, fired)) :
    fired.timers.map (Timer.swept deadline) = agenda.timers.map (Timer.swept deadline) := by
  obtain ⟨stored, active, early, _⟩ := fireNext?_eq_some found
  apply List.ext_getElem?
  intro place
  have taken := get?_of_fireNext? found place
  rw [get?, get?] at taken
  rw [List.getElem?_map, List.getElem?_map, taken]
  split
  · next same =>
      have here : agenda.timers[id]? = some timer := stored
      rw [same, here, Option.map_some, Option.map_some,
        Timer.swept_claim (due_iff.mpr ⟨active, early⟩)]
  · rfl

/-- Where no timer is due a sweep leaves them all. -/
theorem map_swept_of_none (absent : agenda.fireNext? deadline = none) :
    agenda.timers.map (Timer.swept deadline) = agenda.timers := by
  rw [← List.map_id agenda.timers, List.map_map]
  apply List.map_congr_left
  intro timer member
  obtain ⟨id, stored⟩ := List.mem_iff_getElem?.mp member
  exact Timer.swept_of_not_due (fireNext?_eq_none.mp absent id timer stored)

end Drains

/-! ## There is one queue -/

section Unique

variable [LawfulDeadlines τ] {agenda : Agenda τ κ} {deadline : τ}
variable {first second : TimerId × Timer τ κ} {queue other : List (TimerId × Timer τ κ)}

theorem Precedes.asymm (precedes : Precedes first second) : ¬ Precedes second first := by
  intro back
  rcases precedes with earlier | ⟨ordered, _, before⟩
  · rcases back with later | ⟨ordered, _, _⟩
    · exact LawfulDeadlines.not_lt (Lawful.le_of_lt later) earlier
    · exact LawfulDeadlines.not_lt ordered earlier
  · rcases back with later | ⟨_, _, after⟩
    · exact LawfulDeadlines.not_lt ordered later
    · exact Nat.lt_asymm before after

theorem Queue.nodup (inOrder : agenda.Queue deadline queue) : queue.Nodup := by
  apply inOrder.sorted.imp
  rintro first second precedes rfl
  exact precedes.asymm precedes

/-- The timers that are due and their order leave one queue only. -/
theorem Queue.unique (inOrder : agenda.Queue deadline queue)
    (same : agenda.Queue deadline other) : queue = other := by
  have entries : queue.Perm other := by
    rw [List.perm_ext_iff_of_nodup inOrder.nodup same.nodup]
    rintro ⟨id, timer⟩
    rw [inOrder.mem, same.mem]
  exact entries.eq_of_pairwise (fun first second _ _ before after => absurd after before.asymm)
    inOrder.sorted same.sorted

end Unique

end Agenda

end Debounce
