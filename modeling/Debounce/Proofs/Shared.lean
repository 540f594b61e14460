import Debounce.Proofs.Pending

/-!
# Agendas that debouncers share

Several debouncers may set their timers on one agenda; the callback of a timer says whose it is. A
debouncer minds the agenda if the timer it holds is its only pending one. Every turn of a debouncer
keeps this, and leaves the clock and the timers of the others as they are.
-/

namespace Debounce

variable {τ κ ω : Type}

namespace Agenda

/-- The pending timer at a place. -/
def pending? (agenda : Agenda τ κ) (id : TimerId) : Option (Timer τ κ) :=
  (agenda.get? id).filter Timer.active

section Places

variable {agenda : Agenda τ κ} {id other : TimerId} {timer : Timer τ κ}

theorem pending?_eq_some :
    agenda.pending? id = some timer ↔ agenda.get? id = some timer ∧ timer.active = true := by
  simp [pending?, Option.filter_eq_some_iff]

theorem isPending_iff_pending? :
    agenda.isPending id = true ↔ ∃ timer, agenda.pending? id = some timer := by
  simp only [isPending, pending?_eq_some, Option.any_eq_true]

variable (agenda id other) (time : τ) (callback : κ)

theorem pending?_add :
    (agenda.add time callback).2.pending? other =
      if other = agenda.timers.length then
        some { executionTime := time, callback := callback }
      else agenda.pending? other := by
  rw [pending?, get?_add]
  split
  · rfl
  · rfl

theorem pending?_update {change : Timer τ κ → Bool × Timer τ κ}
    (ended : ∀ timer, (change timer).2.active = false) :
    (agenda.update id change).2.pending? other =
      if other = id then none else agenda.pending? other := by
  rw [pending?, get?_update]
  split
  · cases agenda.get? id <;> simp [ended]
  · rfl

theorem pending?_cancel :
    (agenda.cancel id).2.pending? other = if other = id then none else agenda.pending? other :=
  pending?_update agenda id other Timer.active_cancel

theorem pending?_claim :
    (agenda.claim id).2.pending? other = if other = id then none else agenda.pending? other :=
  pending?_update agenda id other Timer.active_claim

theorem pending?_reschedule :
    (agenda.reschedule id time).pending? other =
      if other = id then (agenda.pending? id).map fun timer => { timer with executionTime := time }
      else agenda.pending? other := by
  rw [reschedule, pending?, get?_update]
  split
  · rw [pending?]
    cases agenda.get? id with
    | none => rfl
    | some timer =>
        cases active : timer.active with
        | false => simp [Option.filter, active]
        | true =>
            have kept : Timer.active { timer with executionTime := time } = true := active
            simp [Option.filter, Timer.reschedule, active, kept]
  · rfl

end Places

/-- The timer that is held is the only pending one that is set for the callback. -/
def HeldBy (agenda : Agenda τ κ) (callback : κ) (held : Option TimerId) : Prop :=
  ∀ id, held = some id ↔ ∃ timer, agenda.pending? id = some timer ∧ timer.callback = callback

/-- The agendas show the same clock and differ in timers that are set for the callback alone. -/
structure DiffersAt (callback : κ) (before after : Agenda τ κ) : Prop where
  now : after.now = before.now
  others : ∀ id timer, timer.callback ≠ callback →
    (after.pending? id = some timer ↔ before.pending? id = some timer)

namespace DiffersAt

variable {callback : κ} {before after : Agenda τ κ}

theorem refl (agenda : Agenda τ κ) : DiffersAt callback agenda agenda := ⟨rfl, fun _ _ _ => .rfl⟩

/-- The timer that another callback holds is not touched. -/
theorem heldBy {other : κ} {held : Option TimerId} (differs : DiffersAt callback before after)
    (apart : other ≠ callback) (holds : before.HeldBy other held) : after.HeldBy other held := by
  intro id
  rw [holds id]
  constructor
  · rintro ⟨timer, pending, rfl⟩
    exact ⟨timer, (differs.others id timer apart).mpr pending, rfl⟩
  · rintro ⟨timer, pending, rfl⟩
    exact ⟨timer, (differs.others id timer apart).mp pending, rfl⟩

end DiffersAt

section Held

variable {agenda : Agenda τ κ} {callback : κ} {held : Option TimerId} {id : TimerId}

theorem HeldBy.isPending (holds : agenda.HeldBy callback (some id)) :
    agenda.isPending id = true := by
  rcases (holds id).mp rfl with ⟨timer, pending, _⟩
  exact isPending_iff_pending?.mpr ⟨timer, pending⟩

theorem HeldBy.of_timers {other : Agenda τ κ} (holds : agenda.HeldBy callback held)
    (timers : other.timers = agenda.timers) : other.HeldBy callback held := by
  intro id
  rw [holds id, pending?, pending?, get?, get?, timers]

/-- A timer that is set for a callback that holds none becomes its timer. -/
theorem HeldBy.add (holds : agenda.HeldBy callback none) (time : τ) :
    (agenda.add time callback).2.HeldBy callback (some (agenda.add time callback).1) := by
  intro id
  rw [pending?_add]
  by_cases same : id = agenda.timers.length
  · simp [same, Agenda.add]
  · have free := holds id
    simp only [same, if_false]
    rw [← free]
    simp [Agenda.add, Ne.symm same]

theorem differsAt_add (time : τ) : DiffersAt callback agenda (agenda.add time callback).2 := by
  refine ⟨rfl, ?_⟩
  intro id timer other
  rw [pending?_add]
  split
  · next same =>
      have absent : agenda.pending? id = none := by simp [pending?, get?, same]
      grind
  · rfl

section Ended

variable {after : Agenda τ κ}

/-- A callback whose timer has ended holds none. -/
theorem HeldBy.of_ended (holds : agenda.HeldBy callback (some id))
    (ended : ∀ other, after.pending? other = if other = id then none else agenda.pending? other) :
    after.HeldBy callback none := by
  intro other
  rw [ended]
  have only := holds other
  grind

theorem HeldBy.differsAt_of_ended (holds : agenda.HeldBy callback (some id))
    (now : after.now = agenda.now)
    (ended : ∀ other, after.pending? other = if other = id then none else agenda.pending? other) :
    DiffersAt callback agenda after := by
  refine ⟨now, ?_⟩
  intro place timer other
  rw [ended]
  have own := holds id
  grind

end Ended

theorem HeldBy.reschedule (holds : agenda.HeldBy callback held) (id : TimerId) (time : τ) :
    (agenda.reschedule id time).HeldBy callback held := by
  intro other
  rw [holds other, pending?_reschedule]
  by_cases same : other = id
  · simp only [same, if_true, Option.map_eq_some_iff]
    constructor
    · rintro ⟨timer, pending, own⟩
      exact ⟨_, ⟨timer, pending, rfl⟩, own⟩
    · rintro ⟨_, ⟨timer, pending, rfl⟩, own⟩
      exact ⟨timer, pending, own⟩
  · simp [same]

theorem HeldBy.differsAt_reschedule (holds : agenda.HeldBy callback (some id)) (time : τ) :
    DiffersAt callback agenda (agenda.reschedule id time) := by
  refine ⟨now_reschedule agenda id time, ?_⟩
  intro place timer other
  rw [pending?_reschedule]
  have own := holds id
  grind

end Held

end Agenda

namespace Debouncer

variable [Instant τ]

/-- What holds between a debouncer and an agenda on which its timers call back at the given place.
-/
structure Minds (callback : κ) (debouncer : Debouncer τ ω) (agenda : Agenda τ κ) : Prop where
  /-- The timer that is held is the only one that is pending. -/
  holds : agenda.HeldBy callback debouncer.timer
  /-- A timer stands for a period, which has a beginning. -/
  stamped : debouncer.timer.isSome → debouncer.leadingTimestamp.isSome
  /-- A timer stands for a call, which found work. -/
  supplied : debouncer.timer.isSome → debouncer.work.isSome

namespace Minds

variable {debouncer : Debouncer τ ω} {agenda after : Agenda τ κ} {callback : κ} {id : TimerId}
variable {request : Request ω} {turn : Turn τ (Agenda τ κ) ω} {now : τ}

omit [Instant τ] in
/-- A debouncer that holds no timer minds its agenda if none of its timers is pending. -/
theorem of_timer_eq_none (free : debouncer.timer = none) (holds : agenda.HeldBy callback none) :
    debouncer.Minds callback agenda :=
  ⟨free ▸ holds, by simp [free], by simp [free]⟩

omit [Instant τ] in
theorem cancels (minds : debouncer.Minds callback agenda) (held : debouncer.timer = some id) :
    (agenda.cancel id).1 = true := by
  rw [Agenda.cancel_outcome]
  exact (held ▸ minds.holds).isPending

/-- A timer that is held is active, in a period that began at some instant. -/
theorem awaits (minds : debouncer.Minds callback agenda) (held : debouncer.timer = some id) :
    ∃ time stamp, Awaits debouncer agenda id time stamp := by
  rcases Agenda.isPending_iff.mp (held ▸ minds.holds).isPending with ⟨time, status⟩
  rcases Option.isSome_iff_exists.mp (minds.stamped (by simp [held])) with ⟨stamp, stamped⟩
  exact ⟨time, stamp, held, status, stamped⟩

theorem timer_eq_none (minds : debouncer.Minds callback agenda)
    (absent : ∀ id time stamp, ¬ Awaits debouncer agenda id time stamp) :
    debouncer.timer = none := by
  cases held : debouncer.timer with
  | none => rfl
  | some id =>
      rcases minds.awaits held with ⟨time, stamp, awaits⟩
      exact absurd awaits (absent id time stamp)

/-- A debouncer is pending when it holds a timer. -/
theorem pending_eq (minds : debouncer.Minds callback agenda) :
    debouncer.pending agenda = debouncer.timer.isSome := by
  cases held : debouncer.timer with
  | none => simp [pending, timerStatus?, held]
  | some id => exact pending_iff.mpr ⟨id, held, (held ▸ minds.holds).isPending⟩

omit [Instant τ] in
theorem rebind (minds : debouncer.Minds callback agenda) (work : ω) :
    ({ debouncer with work := some work } : Debouncer τ ω).Minds callback agenda :=
  ⟨minds.holds, minds.stamped, by simp⟩

omit [Instant τ] in
theorem record (minds : debouncer.Minds callback agenda) (call? : Option τ) :
    ({ debouncer with lastCall := call? } : Debouncer τ ω).Minds callback agenda :=
  ⟨minds.holds, minds.stamped, minds.supplied⟩

omit [Instant τ] in
/-- What others do with the agenda does not matter. -/
theorem of_differsAt {other : κ} (minds : debouncer.Minds callback agenda)
    (differs : agenda.DiffersAt other after) (apart : callback ≠ other) :
    debouncer.Minds callback after :=
  ⟨differs.heldBy apart minds.holds, minds.stamped, minds.supplied⟩

omit [Instant τ] in
/-- The debouncer with its timer cancelled. -/
theorem cancel (minds : debouncer.Minds callback agenda) (held : debouncer.timer = some id) :
    (agenda.cancel id).2.HeldBy callback none ∧ agenda.DiffersAt callback (agenda.cancel id).2 := by
  have holds : agenda.HeldBy callback (some id) := held ▸ minds.holds
  exact ⟨holds.of_ended (agenda.pending?_cancel id),
    holds.differsAt_of_ended (agenda.now_cancel id) (agenda.pending?_cancel id)⟩

theorem trailingCall (minds : debouncer.Minds callback agenda) (supplied : debouncer.work.isSome)
    (form : TrailingCall debouncer agenda callback now turn) :
    turn.debouncer.Minds callback turn.scheduler ∧ agenda.DiffersAt callback turn.scheduler := by
  cases form with
  | opened absent =>
      have holds : agenda.HeldBy callback none := minds.timer_eq_none absent ▸ minds.holds
      exact ⟨⟨holds.add _, fun _ => rfl, fun _ => supplied⟩, Agenda.differsAt_add _⟩
  | overdue awaits _ _ =>
      rcases minds.cancel awaits.timer with ⟨holds, differs⟩
      exact ⟨of_timer_eq_none rfl holds, differs⟩
  | overtaken awaits _ refused => simp [minds.cancels awaits.timer] at refused
  | moved awaits _ _ =>
      exact ⟨⟨minds.holds.reschedule _ _, minds.stamped, minds.supplied⟩,
        (awaits.timer ▸ minds.holds).differsAt_reschedule _⟩
  | kept _ _ _ => exact ⟨minds.record _, .refl agenda⟩

theorem reset (minds : debouncer.Minds callback agenda) :
    (debouncer.reset agenda).debouncer.Minds callback (debouncer.reset agenda).scheduler ∧
      agenda.DiffersAt callback (debouncer.reset agenda).scheduler := by
  have free : (debouncer.reset agenda).debouncer.timer = none := by simp [Debouncer.reset]
  cases held : debouncer.timer with
  | none =>
      have same : (debouncer.reset agenda).scheduler = agenda := by simp [Debouncer.reset, held]
      rw [same]
      exact ⟨of_timer_eq_none free (held ▸ minds.holds), .refl agenda⟩
  | some id =>
      have same : (debouncer.reset agenda).scheduler = (agenda.cancel id).2 := by
        simp [Debouncer.reset, held]
      rw [same]
      rcases minds.cancel held with ⟨holds, differs⟩
      exact ⟨of_timer_eq_none free holds, differs⟩

/-- Serving a request, the debouncer minds the agenda, and touches no timer of the others. -/
theorem served (minds : debouncer.Minds callback agenda)
    (form : Served debouncer agenda callback request turn) :
    turn.debouncer.Minds callback turn.scheduler ∧ agenda.DiffersAt callback turn.scheduler := by
  cases form with
  | refusedCall _ | refusedNow _ | ranNow _ | nothingToFlush _ => exact ⟨minds, .refl agenda⟩
  | passedOn _ _ => exact ⟨minds.rebind _, .refl agenda⟩
  | leading _ _ _ call =>
      cases call with
      | ignored _ => exact ⟨(minds.rebind _).record _, .refl agenda⟩
      | executed _ _ => exact ⟨⟨minds.holds, fun _ => rfl, fun _ => rfl⟩, .refl agenda⟩
  | trailing _ _ _ call => exact (minds.rebind _).trailingCall rfl call
  | reset => exact minds.reset
  | flushed held _ =>
      rcases minds.cancel held with ⟨holds, differs⟩
      exact ⟨of_timer_eq_none rfl holds, differs⟩
  | tooLateToFlush held refused => simp [minds.cancels held] at refused

end Minds

end Debouncer

end Debounce
