import Debounce.Proofs.OneShot
import Debounce.Proofs.Turn
import Debounce.Proofs.Waiter

/-!
# How timers are tended

A timer that has been set keeps its callback, and what happens to it later can only end it. A
request of a debouncer sets one timer, or it cancels or moves one, or it leaves them alone.
-/

namespace Debounce

variable {τ : Type} [Instant τ]

/-! ## Agendas -/

namespace Agenda

variable {κ : Type} {before after : Agenda τ κ} {id : TimerId} {timer : Timer τ κ}

/-- No timer is set, and those that there are keep their callbacks and do not become pending. -/
structure Keeps (before after : Agenda τ κ) : Prop where
  length : after.timers.length = before.timers.length
  former : ∀ id timer, after.get? id = some timer → ∃ former, before.get? id = some former ∧
    timer.callback = former.callback ∧ (timer.active = true → former.active = true)

omit [Instant τ] in
theorem keeps_of_timers (same : after.timers = before.timers) : Keeps before after where
  length := congrArg List.length same
  former id timer stored := ⟨timer, by rw [← stored, get?, get?, same], rfl, fun active => active⟩

omit [Instant τ] in
theorem keeps_update (agenda : Agenda τ κ) (id : TimerId)
    {change : Timer τ κ → Bool × Timer τ κ}
    (callback : ∀ timer, (change timer).2.callback = timer.callback)
    (active : ∀ timer, (change timer).2.active = true → timer.active = true) :
    Keeps agenda (agenda.update id change).2 where
  length := length_update _ _ _
  former place timer stored := by
    rw [get?_update] at stored
    split at stored
    · next same =>
        obtain ⟨former, found, rfl⟩ := Option.map_eq_some_iff.mp stored
        exact ⟨former, same ▸ found, callback former, active former⟩
    · exact ⟨timer, stored, rfl, fun pending => pending⟩

/-- What an operation does to the timers that there are. -/
inductive Touches (agenda : Agenda τ κ) : Agenda τ κ → Prop where
  | still : Touches agenda agenda
  | cancelled (id : TimerId) : Touches agenda (agenda.cancel id).2
  | moved (id : TimerId) (time : τ) : Touches agenda (agenda.reschedule id time)

omit [Instant τ] in
theorem Touches.keeps (touches : Touches before after) : Keeps before after := by
  cases touches with
  | still => exact keeps_of_timers rfl
  | cancelled id =>
      apply keeps_update
      · intro timer
        rw [Timer.cancel]
        split <;> rfl
      · simp
  | moved id time =>
      apply keeps_update
      · intro timer
        simp only [Timer.reschedule]
        split <;> rfl
      · simp

omit [Instant τ] in
theorem Touches.now (touches : Touches before after) : after.now = before.now := by
  cases touches with
  | still => rfl
  | cancelled id => exact now_cancel _ _
  | moved id time => exact now_reschedule _ _ _

omit [Instant τ] in
theorem Keeps.ended (keeps : Keeps before after) (ended : before.Ended id) : after.Ended id := by
  obtain ⟨timer, stored, inactive⟩ := ended
  have below : id < after.timers.length :=
    keeps.length.symm ▸ (List.getElem?_eq_some_iff.mp stored).1
  have found : after.get? id = some after.timers[id] := List.getElem?_eq_getElem below
  obtain ⟨former, same, _, active⟩ := keeps.former id _ found
  obtain rfl := Option.some.inj (stored.symm.trans same)
  refine ⟨_, found, ?_⟩
  cases phase : after.timers[id].active with
  | false => rfl
  | true => exact (active phase).symm.trans inactive

omit [Instant τ] in
theorem Ended.lt_length (ended : before.Ended id) : id < before.timers.length := by
  obtain ⟨timer, stored, _⟩ := ended
  exact (List.getElem?_eq_some_iff.mp stored).1

omit [Instant τ] in
theorem Ended.add (ended : before.Ended id) (time : τ) (callback : κ) :
    (before.add time callback).2.Ended id := by
  have old := Nat.ne_of_lt ended.lt_length
  obtain ⟨timer, stored, inactive⟩ := ended
  exact ⟨timer, by rw [get?_add, if_neg old, stored], inactive⟩

/-- The next timer that has expired is checked. -/
theorem expireNext?_eq_update {agenda expired : Agenda τ κ}
    (found : agenda.expireNext? = some (id, timer, expired)) :
    agenda.get? id = some timer ∧ timer.expired agenda.now = true ∧
      expired = (agenda.update id (Timer.check agenda.now)).2 := by
  rw [expireNext?] at found
  split at found
  · cases found
  · next place entry next =>
      simp only [Option.some.injEq, Prod.mk.injEq] at found
      obtain ⟨rfl, rfl, rfl⟩ := found
      obtain ⟨stored, passes⟩ := next?_eq_some next
      exact ⟨stored, passes, rfl⟩

/-- The next timer that has expired is pending, and then it is not. -/
theorem expireNext?_eq_some {agenda expired : Agenda τ κ}
    (found : agenda.expireNext? = some (id, timer, expired)) :
    agenda.get? id = some timer ∧ timer.active = true ∧ Keeps agenda expired ∧
      expired.Ended id := by
  obtain ⟨stored, passes, rfl⟩ := expireNext?_eq_update found
  refine ⟨stored, (Timer.expired_iff.mp passes).1, ?_, ?_⟩
  · apply keeps_update
    · intro timer
      rw [Timer.check, Timer.claim]
      split
      · split <;> rfl
      · rfl
    · intro timer
      rw [Timer.check]
      split
      · simp
      · exact fun active => active
  · refine ⟨_, by rw [get?_update, if_pos rfl, stored, Option.map_some], ?_⟩
    rw [Timer.check, if_pos passes]
    exact timer.active_claim

end Agenda

/-! ## Turns -/

namespace Debouncer

variable {ω κ : Type} {debouncer : Debouncer τ ω} {request : Request ω}

/-- A debouncer that is left without work has held no timer, and sets none. -/
theorem Served.of_work_eq_none {agenda : Agenda τ κ} {callback : κ} {turn : Turn τ (Agenda τ κ) ω}
    (served : Served debouncer agenda callback request turn) (without : turn.debouncer.work = none)
    (free : debouncer.timer = none) :
    turn.debouncer.timer = none ∧ turn.scheduler = agenda := by
  cases served with
  | refusedCall | refusedNow | nothingToFlush => exact ⟨free, rfl⟩
  | passedOn | ranNow => simp_all [execute]
  | leading _ _ _ form => cases form <;> cases without
  | trailing _ _ _ form => cases form <;> cases without
  | reset => simp [Debouncer.reset, free]
  | flushed held | tooLateToFlush held => cases free.symm.trans held

/-- The executions that a request asks for are not put down to a timer. -/
theorem Served.executes_or_replies_without_timer {agenda : Agenda τ κ} {callback : κ}
    {turn : Turn τ (Agenda τ κ) ω} (served : Served debouncer agenda callback request turn) :
    (∃ cause, (∀ id, cause ≠ .timer id) ∧ turn.Executes cause) ∨ turn.Replies := by
  cases served with
  | passedOn | ranNow | flushed => exact .inl ⟨_, by simp, execute_executes _ _⟩
  | leading _ _ _ form =>
      cases form with
      | ignored => exact .inr (recorded_replies (by simp))
      | executed => exact .inl ⟨_, by simp, execute_executes _ _⟩
  | trailing _ _ _ form =>
      exact form.executes_or_replies.imp_left fun executes => ⟨_, by simp, executes⟩
  | reset => exact .inr reset_replies
  | refusedCall | refusedNow | nothingToFlush | tooLateToFlush =>
      exact .inr ⟨⟨_, rfl⟩, by simp⟩

/-- A request touches a timer at most, or it sets one and replies nothing. -/
theorem Served.touches_or_sets {agenda : Agenda τ κ} {callback : κ} {turn : Turn τ (Agenda τ κ) ω}
    (served : Served debouncer agenda callback request turn) :
    agenda.Touches turn.scheduler ∨
      turn.Replies ∧ turn.demand = .reply (.ok .nothing) ∧
        ∃ time, turn.scheduler = (agenda.add time callback).2 := by
  cases served with
  | refusedCall | passedOn | refusedNow | ranNow | nothingToFlush => exact .inl .still
  | leading _ _ _ form => cases form <;> exact .inl .still
  | trailing _ _ _ form =>
      cases form with
      | opened => exact .inr ⟨recorded_replies (by simp), rfl, _, rfl⟩
      | overdue | overtaken => exact .inl (.cancelled _)
      | moved => exact .inl (.moved _ _)
      | kept => exact .inl .still
  | reset =>
      rw [Debouncer.reset]
      cases debouncer.timer with
      | none => exact .inl .still
      | some id => exact .inl (.cancelled id)
  | flushed | tooLateToFlush => exact .inl (.cancelled _)

end Debouncer

end Debounce
