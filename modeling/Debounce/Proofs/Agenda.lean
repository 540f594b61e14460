import Debounce.Scheduler

/-!
# Agendas with one pending timer

How the operations of an agenda change its timers, place by place, and what this means for an
agenda on which no more than one timer is pending: setting, cancelling and firing move the one
pending timer, and the count of pending timers says whether there is one.
-/

namespace Debounce

variable {τ κ : Type}

namespace Timer

variable (timer : Timer τ κ)

@[simp] theorem cancel_outcome : timer.cancel.1 = timer.active := by
  rw [cancel]
  split <;> simp_all

@[simp] theorem active_cancel : timer.cancel.2.active = false := by
  rw [cancel]
  split
  · rfl
  · simp_all

@[simp] theorem claim_outcome : timer.claim.1 = timer.active := by
  rw [claim]
  split <;> simp_all

@[simp] theorem active_claim : timer.claim.2.active = false := by
  rw [claim]
  split
  · rfl
  · simp_all

@[simp] theorem active_reschedule (time : τ) : (timer.reschedule time).active = timer.active := by
  rw [reschedule]
  split <;> rfl

end Timer

namespace Agenda

section Places

variable (agenda : Agenda τ κ) (id other : TimerId) (time : τ) (callback : κ)

theorem get?_add :
    (agenda.add time callback).2.get? other =
      if other = agenda.timers.length then
        some { executionTime := time, callback := callback }
      else agenda.get? other := by
  simp only [add, get?]
  by_cases same : other = agenda.timers.length
  · simp [same]
  · rcases Nat.lt_or_gt_of_ne same with below | beyond
    · simp [same, List.getElem?_append_left below]
    · have extended : (agenda.timers ++
          [{ executionTime := time, callback := callback }])[other]? = none := by
        apply List.getElem?_eq_none
        simp only [List.length_append, List.length_singleton]
        exact beyond
      rw [if_neg same, extended, List.getElem?_eq_none (Nat.le_of_lt beyond)]

theorem get?_update (change : Timer τ κ → Bool × Timer τ κ) :
    (agenda.update id change).2.get? other =
      if other = id then (agenda.get? id).map fun timer => (change timer).2
      else agenda.get? other := by
  simp only [update, get?]
  cases found : agenda.timers[id]? with
  | none =>
      by_cases same : other = id
      · simp [same, found]
      · simp [same]
  | some timer =>
      by_cases same : other = id
      · have below : id < agenda.timers.length := (List.getElem?_eq_some_iff.mp found).1
        simp [same, below]
      · simp [same, List.getElem?_set_ne (Ne.symm same)]

@[simp] theorem now_update (change : Timer τ κ → Bool × Timer τ κ) :
    (agenda.update id change).2.now = agenda.now := by
  rw [update]
  split <;> rfl

theorem update_outcome (change : Timer τ κ → Bool × Timer τ κ) :
    (agenda.update id change).1 = (agenda.get? id).any fun timer => (change timer).1 := by
  simp only [update, get?]
  cases agenda.timers[id]? <;> rfl

@[simp] theorem now_add : (agenda.add time callback).2.now = agenda.now := rfl

@[simp] theorem now_cancel : (agenda.cancel id).2.now = agenda.now := now_update _ _ _

@[simp] theorem now_claim : (agenda.claim id).2.now = agenda.now := now_update _ _ _

@[simp] theorem now_reschedule : (agenda.reschedule id time).now = agenda.now := now_update _ _ _

end Places

/-- The timer at a place is pending. -/
def isPending (agenda : Agenda τ κ) (id : TimerId) : Bool := (agenda.get? id).any Timer.active

theorem isPending_add (agenda : Agenda τ κ) (time : τ) (callback : κ) (id : TimerId) :
    (agenda.add time callback).2.isPending id =
      (agenda.isPending id || decide (id = agenda.timers.length)) := by
  rw [isPending, isPending, get?_add]
  by_cases same : id = agenda.timers.length
  · simp [same, Timer.active]
  · simp [same]

/-- Cancelling tells whether the timer was pending. -/
theorem cancel_outcome (agenda : Agenda τ κ) (id : TimerId) :
    (agenda.cancel id).1 = agenda.isPending id := by
  rw [cancel, isPending, update_outcome]
  simp only [Timer.cancel_outcome]

/-- Claiming tells whether the timer was pending. -/
theorem claim_outcome (agenda : Agenda τ κ) (id : TimerId) :
    (agenda.claim id).1 = agenda.isPending id := by
  rw [claim, isPending, update_outcome]
  simp only [Timer.claim_outcome]

/-- A cancelled timer is not pending, and the others stay as they are. -/
theorem isPending_cancel (agenda : Agenda τ κ) (id other : TimerId) :
    (agenda.cancel id).2.isPending other = (agenda.isPending other && decide (other ≠ id)) := by
  rw [cancel, isPending, isPending]
  rw [get?_update]
  by_cases same : other = id
  · simp [same, Option.any_map]
  · simp [same]

/-- A claimed timer is not pending, and the others stay as they are. -/
theorem isPending_claim (agenda : Agenda τ κ) (id other : TimerId) :
    (agenda.claim id).2.isPending other = (agenda.isPending other && decide (other ≠ id)) := by
  rw [claim, isPending, isPending]
  rw [get?_update]
  by_cases same : other = id
  · simp [same, Option.any_map]
  · simp [same]

theorem isPending_reschedule (agenda : Agenda τ κ) (id other : TimerId) (time : τ) :
    (agenda.reschedule id time).isPending other = agenda.isPending other := by
  rw [reschedule, isPending, isPending]
  rw [get?_update]
  by_cases same : other = id
  · simp [same, Option.any_map]
  · simp [same]

section Scheduling

variable [Instant τ] (agenda : Agenda τ κ) (id : TimerId) (time : τ) (callback : κ)

@[simp] theorem scheduler_now : Scheduler.now agenda = agenda.now := rfl

@[simp] theorem scheduler_schedule :
    Scheduler.schedule agenda time callback = agenda.add (agenda.now + time) callback := rfl

@[simp] theorem scheduler_cancel : Scheduler.cancel agenda id = agenda.cancel id := rfl

@[simp] theorem scheduler_reschedule :
    Scheduler.reschedule agenda id time = agenda.reschedule id time := rfl

end Scheduling

section Status

variable [Instant τ] {agenda : Agenda τ κ} {id : TimerId} {active : Bool} {time : τ}

theorem status?_eq_some :
    Scheduler.status? agenda id = some ⟨active, time⟩ ↔
      ∃ timer, agenda.get? id = some timer ∧ timer.active = active ∧
        timer.executionTime = time := by
  change (agenda.get? id).map Timer.status = _ ↔ _
  simp [Option.map_eq_some_iff, Timer.status]

theorem isPending_iff :
    agenda.isPending id = true ↔ ∃ time, Scheduler.status? agenda id = some ⟨true, time⟩ := by
  simp only [status?_eq_some, isPending, Option.any_eq_true]
  constructor
  · rintro ⟨timer, stored, active⟩
    exact ⟨_, timer, stored, active, rfl⟩
  · rintro ⟨_, timer, stored, active, _⟩
    exact ⟨timer, stored, active⟩

theorem status?_add (agenda : Agenda τ κ) (time : τ) (callback : κ) :
    Scheduler.status? (agenda.add time callback).2 (agenda.add time callback).1 =
      some ⟨true, time⟩ := by
  rw [status?_eq_some]
  refine ⟨{ executionTime := time, callback := callback }, ?_, rfl, rfl⟩
  rw [get?_add]
  simp [add]

/-- A pending timer is moved to the given time. -/
theorem status?_reschedule {later : τ} (status : Scheduler.status? agenda id = some ⟨true, time⟩) :
    Scheduler.status? (agenda.reschedule id later) id = some ⟨true, later⟩ := by
  rcases status?_eq_some.mp status with ⟨timer, stored, active, _⟩
  rw [status?_eq_some]
  refine ⟨timer.reschedule later, ?_, ?_, ?_⟩
  · simp [reschedule, get?_update, stored]
  · simp [active]
  · simp [Timer.reschedule, active]

end Status

/-- Only the timer that is held is pending. -/
def Holds (agenda : Agenda τ κ) (held : Option TimerId) : Prop :=
  ∀ id, agenda.isPending id = true ↔ held = some id

section Holds

variable {agenda : Agenda τ κ} {held : Option TimerId} {id : TimerId}

theorem holds_nil (now : τ) : Holds ({ now := now } : Agenda τ κ) none := by
  intro id
  simp [isPending, get?]

/-- What is pending does not depend on the clock. -/
theorem Holds.of_timers {other : Agenda τ κ} (holds : agenda.Holds held)
    (timers : other.timers = agenda.timers) : other.Holds held := by
  intro id
  rw [← holds id, isPending, isPending, get?, get?, timers]

theorem Holds.add (holds : agenda.Holds none) (time : τ) (callback : κ) :
    (agenda.add time callback).2.Holds (some (agenda.add time callback).1) := by
  intro id
  have free : agenda.isPending id = false := by
    simpa using holds id
  rw [isPending_add, free]
  simp [Agenda.add, eq_comm]

theorem Holds.cancel (holds : agenda.Holds (some id)) : (agenda.cancel id).2.Holds none := by
  intro other
  rw [isPending_cancel]
  have only := holds other
  grind

theorem Holds.claim (holds : agenda.Holds (some id)) : (agenda.claim id).2.Holds none := by
  intro other
  rw [isPending_claim]
  have only := holds other
  grind

theorem Holds.reschedule (holds : agenda.Holds held) (id : TimerId) (time : τ) :
    (agenda.reschedule id time).Holds held := by
  intro other
  rw [isPending_reschedule]
  exact holds other

private theorem countP_of_held {α : Type} (items : List α) (test : α → Bool) (held : Option Nat)
    (only : ∀ place, items[place]?.any test = true ↔ held = some place) :
    items.countP test = if held.isSome then 1 else 0 := by
  induction items generalizing held with
  | nil =>
      cases held with
      | none => rfl
      | some place => simp at only
  | cons item rest ih =>
      cases held with
      | none =>
          have restOnly := ih none fun place => by simpa using only (place + 1)
          have itemFails : test item = false := by simpa using only 0
          simpa [itemFails] using restOnly
      | some place =>
          cases place with
          | zero =>
              have restOnly := ih none fun place => by simpa using only (place + 1)
              have itemPasses : test item = true := by simpa using only 0
              simpa [itemPasses] using restOnly
          | succ place =>
              have restOnly := ih (some place) fun other => by simpa using only (other + 1)
              have itemFails : test item = false := by simpa using only 0
              simpa [itemFails] using restOnly

/-- There is one pending timer or none. -/
theorem Holds.pendingCount (holds : agenda.Holds held) :
    agenda.pendingCount = if held.isSome then 1 else 0 :=
  countP_of_held agenda.timers Timer.active held holds

end Holds

/-- Every pending timer is set for a time that has the property. -/
def AllPending (agenda : Agenda τ κ) (P : τ → Prop) : Prop :=
  ∀ id timer, agenda.get? id = some timer → timer.active = true → P timer.executionTime

namespace AllPending

variable {agenda : Agenda τ κ} {P : τ → Prop}

theorem of_holds_none (holds : agenda.Holds none) : agenda.AllPending P := by
  intro id timer stored active
  have held := (holds id).mp (by simp [isPending, stored, active])
  cases held

/-- The clock does not matter. -/
theorem of_timers {other : Agenda τ κ} (all : agenda.AllPending P)
    (timers : other.timers = agenda.timers) : other.AllPending P := by
  intro id timer stored active
  rw [get?, timers] at stored
  exact all id timer stored active

theorem add {time : τ} (all : agenda.AllPending P) (holds : P time) (callback : κ) :
    (agenda.add time callback).2.AllPending P := by
  intro id timer stored active
  rw [get?_add] at stored
  split at stored
  · obtain rfl := Option.some.inj stored
    exact holds
  · exact all id timer stored active

/-- A timer that ends does not matter any more. -/
theorem update {change : Timer τ κ → Bool × Timer τ κ} (all : agenda.AllPending P)
    (ended : ∀ timer, (change timer).2.active = false) (id : TimerId) :
    (agenda.update id change).2.AllPending P := by
  intro other timer stored active
  rw [get?_update] at stored
  split at stored
  · rcases Option.map_eq_some_iff.mp stored with ⟨before, _, rfl⟩
    simp [ended] at active
  · exact all other timer stored active

theorem cancel (all : agenda.AllPending P) (id : TimerId) : (agenda.cancel id).2.AllPending P :=
  all.update Timer.active_cancel id

theorem claim (all : agenda.AllPending P) (id : TimerId) : (agenda.claim id).2.AllPending P :=
  all.update Timer.active_claim id

theorem reschedule {time : τ} (all : agenda.AllPending P) (holds : P time) (id : TimerId) :
    (agenda.reschedule id time).AllPending P := by
  intro other timer stored active
  rw [Agenda.reschedule, get?_update] at stored
  split at stored
  · rcases Option.map_eq_some_iff.mp stored with ⟨before, _, rfl⟩
    have pending : before.active = true := by simpa using active
    simpa [Timer.reschedule, pending] using holds
  · exact all other timer stored active

end AllPending

/-! ## The next timer -/

section Next

variable {agenda : Agenda τ κ}

theorem mem_entries {id : TimerId} {timer : Timer τ κ} :
    (id, timer) ∈ agenda.entries ↔ agenda.get? id = some timer := by
  simp only [entries, get?, List.mem_map, Prod.exists, List.mem_zipIdx_iff_getElem?]
  constructor
  · rintro ⟨stored, place, found, same⟩
    cases same
    exact found
  · intro found
    exact ⟨timer, id, found, rfl⟩

variable [Instant τ]

theorem earliest?_mem {entries : List (TimerId × Timer τ κ)} {entry : TimerId × Timer τ κ}
    (found : earliest? entries = some entry) : entry ∈ entries := by
  induction entries generalizing entry with
  | nil => simp [earliest?] at found
  | cons head rest ih =>
      rw [earliest?] at found
      split at found
      · simp_all
      · next other earlier =>
          split at found
          · exact List.mem_cons_of_mem _ (ih (Option.some.inj found ▸ earlier))
          · simp_all

theorem earliest?_eq_none {entries : List (TimerId × Timer τ κ)}
    (absent : earliest? entries = none) : entries = [] := by
  cases entries with
  | nil => rfl
  | cons head rest =>
      rw [earliest?] at absent
      split at absent
      · simp at absent
      · split at absent <;> simp at absent

theorem next?_eq_some {test : Timer τ κ → Bool} {id : TimerId} {timer : Timer τ κ}
    (found : agenda.next? test = some (id, timer)) :
    agenda.get? id = some timer ∧ test timer = true := by
  have member := List.mem_filter.mp (earliest?_mem found)
  exact ⟨mem_entries.mp member.1, member.2⟩

theorem next?_eq_none {test : Timer τ κ → Bool} {id : TimerId} {timer : Timer τ κ}
    (absent : agenda.next? test = none) (found : agenda.get? id = some timer) :
    test timer = false := by
  have empty := List.filter_eq_nil_iff.mp (earliest?_eq_none absent)
  simpa using empty (id, timer) (mem_entries.mpr found)

/-- Firing the next timer claims a pending timer that is due, with the clock moved on to its
time. -/
theorem fireNext?_eq_some {deadline : τ} {id : TimerId} {timer : Timer τ κ} {fired : Agenda τ κ}
    (found : agenda.fireNext? deadline = some (id, timer, fired)) :
    agenda.get? id = some timer ∧ timer.active = true ∧ timer.executionTime ≤ deadline ∧
      fired = { (agenda.claim id).2 with now := Instant.later agenda.now timer.executionTime } := by
  rw [fireNext?] at found
  split at found
  · simp at found
  · next place entry next =>
      simp only [Option.some.injEq, Prod.mk.injEq] at found
      rcases found with ⟨rfl, rfl, rfl⟩
      rcases next?_eq_some next with ⟨stored, due⟩
      simp only [Timer.due, Bool.and_eq_true, decide_eq_true_eq] at due
      refine ⟨stored, due.1, due.2, ?_⟩
      simp [claim, update, show agenda.timers[place]? = some entry from stored]

/-- A pending timer that is due is not passed over. -/
theorem fireNext?_ne_none {deadline : τ} {id : TimerId} {timer : Timer τ κ}
    (stored : agenda.get? id = some timer) (active : timer.active = true)
    (due : timer.executionTime ≤ deadline) : agenda.fireNext? deadline ≠ none := by
  rw [fireNext?]
  split
  · next absent => simpa [Timer.due, active, due] using next?_eq_none absent stored
  · simp

/-- Where no timer is pending, none is next. -/
theorem Holds.next?_eq_none (holds : agenda.Holds none) {test : Timer τ κ → Bool}
    (pending : ∀ timer, test timer = true → timer.active = true) : agenda.next? test = none := by
  cases found : agenda.next? test with
  | none => rfl
  | some entry =>
      rcases next?_eq_some found with ⟨stored, passes⟩
      have held := (holds entry.1).mp (by simp [isPending, stored, pending entry.2 passes])
      cases held

theorem Holds.fireNext?_eq_none (holds : agenda.Holds none) (deadline : τ) :
    agenda.fireNext? deadline = none := by
  have absent : agenda.next? (Timer.due deadline) = none := by
    apply holds.next?_eq_none
    intro timer due
    exact (Bool.and_eq_true _ _ ▸ due).1
  rw [fireNext?, absent]

theorem Holds.expireNext?_eq_none (holds : agenda.Holds none) : agenda.expireNext? = none := by
  have absent : agenda.next? (Timer.expired agenda.now) = none := by
    apply holds.next?_eq_none
    intro timer expired
    exact (Bool.and_eq_true _ _ ▸ expired).1
  rw [expireNext?, absent]

end Next

end Agenda

end Debounce
