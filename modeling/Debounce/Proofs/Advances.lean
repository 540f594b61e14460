import Debounce.Proofs.Next

/-!
# Advances that fire timers

An advance fires the timers that are due one after the other, and their callbacks act on the agenda
and on whatever else they keep. As long as they leave the clock alone, an advance to a deadline is
an advance to an earlier one and then the rest: the timers that are still pending at the cut are
later, and they move the clock on themselves.
-/

namespace Debounce.Agenda

variable {κ Memory : Type}

/-- A timer that has fired, and what the clock showed. -/
structure Firing (τ : Type) where
  timer : TimerId
  executionTime : τ
  now : τ

/-- What callbacks do: they act on the agenda, and on whatever else they keep, in view of both. -/
abbrev Action (τ κ Memory : Type) :=
  TimerId → Timer τ κ → Agenda τ κ × Memory → Agenda τ κ × Memory

/-- The timers that are due fire one after the other, and their callbacks act. -/
inductive Advances {τ : Type} [Instant τ] (act : Action τ κ Memory) (deadline : τ) :
    Agenda τ κ × Memory → List (Firing τ) → Agenda τ κ × Memory → Prop where
  | arrived {agenda : Agenda τ κ} {memory : Memory} :
      agenda.fireNext? deadline = none →
      Advances act deadline (agenda, memory) [] (agenda.arrive deadline, memory)
  | fired {agenda fired : Agenda τ κ} {memory : Memory} {id : TimerId} {timer : Timer τ κ}
      {firings : List (Firing τ)} {last : Agenda τ κ × Memory} :
      agenda.fireNext? deadline = some (id, timer, fired) →
      Advances act deadline (act id timer (fired, memory)) firings last →
      Advances act deadline (agenda, memory) (⟨id, timer.executionTime, fired.now⟩ :: firings) last

/-- The callbacks leave the clock alone. -/
def Timeless {τ : Type} (act : Action τ κ Memory) : Prop :=
  ∀ id timer state, (act id timer state).1.now = state.1.now

variable {act : Action Rat κ Memory} {near far : Rat}

/-- Two moves of the clock are the same as the second one, if that goes as far as the first one. -/
theorem later_later {now near far : Rat} (ordered : near ≤ far) :
    Instant.later (Instant.later now near) far = Instant.later now far := by
  change (if (if now < near then near else now) < far then far else
    if now < near then near else now) = if now < far then far else now
  grind

theorem later_of_le {now deadline : Rat} (started : now ≤ deadline) :
    Instant.later now deadline = deadline := by
  change (if now < deadline then deadline else now) = deadline
  grind

section Arrival

variable {agenda fired : Agenda Rat κ} {id : TimerId} {timer : Timer Rat κ}

theorem arrive_arrive (ordered : near ≤ far) :
    (agenda.arrive near).arrive far = agenda.arrive far := by
  simp [arrive, later_later ordered]

/-- Where no timer is due at the near deadline, the one that is next is later. -/
theorem le_executionTime (absent : agenda.fireNext? near = none)
    (found : agenda.fireNext? far = some (id, timer, fired)) : near ≤ timer.executionTime := by
  rcases fireNext?_eq_some found with ⟨stored, active, _, _⟩
  have late := fireNext?_eq_none.mp absent id timer stored
  simp only [Timer.due, active, Bool.true_and, decide_eq_false_iff_not] at late
  exact Instant.Lawful.le_of_lt (Instant.lt_of_not_le Rat.le_refl Rat.le_refl late)

/-- A timer that is later moves the clock on itself. -/
theorem fireNext?_arrive (absent : agenda.fireNext? near = none) :
    (agenda.arrive near).fireNext? far = agenda.fireNext? far := by
  cases found : agenda.fireNext? far with
  | none =>
      rw [fireNext?_eq_none] at found ⊢
      exact found
  | some next =>
      obtain ⟨id, timer, fired⟩ := next
      have timers : (agenda.arrive near).timers = agenda.timers := rfl
      have clock : Instant.later (agenda.arrive near).now timer.executionTime = fired.now := by
        rw [(fireNext?_eq_some found).2.2.2]
        exact later_later (le_executionTime absent found)
      rw [fireNext?_of_timers timers found, clock]

end Arrival

/-- An advance to the far deadline is an advance to the near one, where the clock stands still for
a moment, and a second one from there. -/
theorem Advances.cut (timeless : Timeless act) (ordered : near ≤ far)
    {state last : Agenda Rat κ × Memory} {firings : List (Firing Rat)}
    (advances : Advances act far state firings last) (started : state.1.now ≤ near) :
    ∃ earlier middle later, Advances act near state earlier middle ∧ middle.1.now = near ∧
      Advances act far middle later last ∧ firings = earlier ++ later := by
  induction advances with
  | @arrived agenda memory absent =>
      have absentNear : agenda.fireNext? near = none := by
        cases found : agenda.fireNext? near with
        | none => rfl
        | some next => cases absent.symm.trans (fireNext?_of_le ordered found)
      refine ⟨[], (agenda.arrive near, memory), [], .arrived absentNear, later_of_le started, ?_,
        rfl⟩
      exact arrive_arrive ordered ▸ .arrived ((fireNext?_arrive absentNear).trans absent)
  | @fired agenda fired memory id timer firings last found rest ih =>
      cases early : agenda.fireNext? near with
      | some next =>
          have same : next = (id, timer, fired) :=
            Option.some.inj ((fireNext?_of_le ordered early).symm.trans found)
          rw [same] at early
          rcases fireNext?_eq_some early with ⟨_, _, due, claimed⟩
          have clock : (act id timer (fired, memory)).1.now ≤ near := by
            rw [timeless, claimed]
            exact Instant.later_le started due
          rcases ih clock with ⟨earlier, middle, later, first, arrived, second, rfl⟩
          exact ⟨_ :: earlier, middle, later, .fired early first, arrived, second, rfl⟩
      | none =>
          refine ⟨[], (agenda.arrive near, memory), _, .arrived early, later_of_le started, ?_, rfl⟩
          exact .fired ((fireNext?_arrive early).trans found) rest

/-- An advance leaves the clock at its deadline, unless the clock was later. -/
theorem Advances.now_eq (timeless : Timeless act) {state last : Agenda Rat κ × Memory}
    {firings : List (Firing Rat)} (advances : Advances act near state firings last)
    (started : state.1.now ≤ near) : last.1.now = near := by
  induction advances with
  | arrived => exact later_of_le started
  | fired found _ ih =>
      rcases fireNext?_eq_some found with ⟨_, _, due, claimed⟩
      apply ih
      rw [timeless, claimed]
      exact Instant.later_le started due

/-- Two advances, the second one from where the first one has got to, are one. -/
theorem Advances.join (ordered : near ≤ far)
    {state middle last : Agenda Rat κ × Memory} {earlier later : List (Firing Rat)}
    (first : Advances act near state earlier middle)
    (second : Advances act far middle later last) :
    Advances act far state (earlier ++ later) last := by
  induction first with
  | @arrived agenda memory absentNear =>
      cases second with
      | arrived absent =>
          rw [arrive_arrive ordered]
          exact .arrived ((fireNext?_arrive absentNear).symm.trans absent)
      | fired found rest => exact .fired ((fireNext?_arrive absentNear).symm.trans found) rest
  | fired found _ ih => exact .fired (fireNext?_of_le ordered found) (ih second)

/-- What callbacks keep beside the agenda may be more than they go by. -/
theorem Advances.of_map {τ : Type} [Instant τ] {act : Action τ κ Memory} {deadline : τ}
    {change : Memory → Memory}
    (uniform : ∀ place timer state,
      act place timer (state.map id change) = (act place timer state).map id change)
    {state last : Agenda τ κ × Memory} {firings : List (Firing τ)}
    (advances : Advances act deadline (state.map id change) firings last) :
    ∃ kept, Advances act deadline state firings kept ∧ last = kept.map id change := by
  generalize same : state.map id change = changed at advances
  induction advances generalizing state with
  | arrived absent =>
      cases same
      exact ⟨_, .arrived absent, rfl⟩
  | fired found _ ih =>
      cases same
      rcases ih (uniform _ _ (_, _)).symm with ⟨kept, rest, rfl⟩
      exact ⟨kept, .fired found rest, rfl⟩

end Debounce.Agenda
