import Debounce.Proofs.Agenda
import Debounce.Proofs.Seconds

/-!
# Timers with a waiter

On the pool a timer has a waiter of its own. The waiter looks at the timer and at the clock, under
the timer's lock, until it finds the timer expired or ended, and it hands over the callback of an
expired timer after it has left the lock. In the meantime the clock may be set, forwards and
backwards, and the timer may be cancelled and moved. The order of all this is left open.
-/

namespace Debounce

namespace Timer

variable {τ κ : Type} {timer : Timer τ κ}

theorem active_iff : timer.active = true ↔ timer.phase = .pending := decide_eq_true_iff

@[simp] theorem phase_reschedule (timer : Timer τ κ) (time : τ) :
    (timer.reschedule time).phase = timer.phase := by
  rw [reschedule]
  split <;> rfl

theorem cancel_of_active (active : timer.active = true) :
    timer.cancel = (true, { timer with phase := .cancelled }) := if_pos active

theorem cancel_of_ended (ended : timer.active = false) : timer.cancel = (false, timer) :=
  if_neg (Bool.eq_false_iff.mp ended)

theorem reschedule_of_ended (ended : timer.active = false) (time : τ) :
    timer.reschedule time = timer := if_neg (Bool.eq_false_iff.mp ended)

variable [Instant τ] {clock : τ}

theorem expired_iff :
    timer.expired clock = true ↔
      timer.active = true ∧ timer.executionTime - clock ≤ Instant.zero := by
  simp [expired]

theorem check_of_expired (expired : timer.expired clock = true) :
    timer.check clock = (true, { timer with phase := .fired }) := by
  rw [check, if_pos expired]
  exact if_pos (expired_iff.mp expired).1

theorem check_of_not_expired (stays : timer.expired clock = false) :
    timer.check clock = (false, timer) := if_neg (Bool.eq_false_iff.mp stays)

/-- A timer only begins to fire when nothing remains until its time. -/
theorem expired_of_check (fires : (timer.check clock).1 = true) : timer.expired clock = true := by
  cases expired : timer.expired clock with
  | true => rfl
  | false =>
      rw [check_of_not_expired expired] at fires
      cases fires

end Timer

/-- How far the waiter of a timer has got. -/
inductive Waiter where
  | watching
  /-- It has made the timer fire, and is about to hand over the callback. -/
  | leaving
  | gone
  deriving DecidableEq

/-- What a waiter does that finds the timer in a phase. -/
def Waiter.after : Phase → Waiter
  | .pending => .watching
  | .fired => .leaving
  | .cancelled => .gone

/-- A timer with its waiter, and what the clock shows. -/
structure Watch (τ κ : Type) where
  clock : τ
  timer : Timer τ κ
  waiter : Waiter := .watching

namespace Watch

variable {τ κ : Type}

/-- A timer is set, and its waiter begins to watch. -/
def set (clock time : τ) (callback : κ) : Watch τ κ where
  clock := clock
  timer := { executionTime := time, callback := callback }

/-- What happens between a timer and those who use it. -/
inductive Occurrence (τ : Type) where
  /-- The waiter looks at the clock and at the time that the timer is set for, and may make it
  fire. -/
  | checked (clock time : τ) (fires : Bool)
  | handedOver
  | clockSet (clock : τ)
  | cancelled (outcome : Bool)
  /-- Somebody wants to move the timer from the one time, and it is set for the other one then. -/
  | moved (before after : τ)
  deriving DecidableEq

namespace Occurrence

/-- The timer begins to fire. -/
def fires : Occurrence τ → Bool
  | .checked _ _ fires => fires
  | _ => false

/-- The callback is handed over. -/
def handsOver : Occurrence τ → Bool
  | .handedOver => true
  | _ => false

/-- The timer is cancelled in time. -/
def cancels : Occurrence τ → Bool
  | .cancelled outcome => outcome
  | _ => false

end Occurrence

variable [Instant τ]

/-- The waiter looks at the timer. -/
def check (watch : Watch τ κ) : Watch τ κ :=
  let timer := (watch.timer.check watch.clock).2
  { watch with timer := timer, waiter := .after timer.phase }

/-- What can happen next. -/
inductive Step (watch : Watch τ κ) : Occurrence τ → Watch τ κ → Prop where
  | check :
      watch.waiter = .watching →
      Step watch (.checked watch.clock watch.timer.executionTime (watch.timer.check watch.clock).1)
        watch.check
  | handOver : watch.waiter = .leaving → Step watch .handedOver { watch with waiter := .gone }
  | setClock (clock : τ) : Step watch (.clockSet clock) { watch with clock := clock }
  | cancel :
      Step watch (.cancelled watch.timer.cancel.1) { watch with timer := watch.timer.cancel.2 }
  | reschedule (time : τ) :
      Step watch (.moved watch.timer.executionTime (watch.timer.reschedule time).executionTime)
        { watch with timer := watch.timer.reschedule time }

/-- What may have happened, in the order in which it did. -/
inductive Run (first : Watch τ κ) : List (Occurrence τ) → Watch τ κ → Prop where
  | start : Run first [] first
  | step {record : List (Occurrence τ)} {occurrence : Occurrence τ} {middle last : Watch τ κ} :
      Run first record middle → Step middle occurrence last →
      Run first (record ++ [occurrence]) last

/-- How far a timer and its waiter have got, with the numbers of times that the timer began to fire,
was cancelled and was handed over. -/
inductive Stage : Phase → Waiter → Nat → Nat → Nat → Prop where
  | pending : Stage .pending .watching 0 0 0
  | firing : Stage .fired .leaving 1 0 0
  | done : Stage .fired .gone 1 0 1
  | cancelled : Stage .cancelled .watching 0 1 0
  | left : Stage .cancelled .gone 0 1 0

namespace Stage

variable {phase : Phase} {waiter : Waiter} {fires cancels handsOver : Nat}

theorem fire (stage : Stage .pending waiter fires cancels handsOver) :
    Stage .fired .leaving (fires + 1) cancels handsOver := by
  cases stage
  exact .firing

theorem cancel (stage : Stage .pending waiter fires cancels handsOver) :
    Stage .cancelled waiter fires (cancels + 1) handsOver := by
  cases stage
  exact .cancelled

theorem handOver (stage : Stage phase .leaving fires cancels handsOver) :
    Stage phase .gone fires cancels (handsOver + 1) := by
  cases stage
  exact .done

theorem watching_of_pending (stage : Stage .pending waiter fires cancels handsOver) :
    waiter = .watching := by
  cases stage
  rfl

/-- A waiter that watches goes when the timer has been cancelled. -/
theorem look (stage : Stage phase .watching fires cancels handsOver) :
    Stage phase (.after phase) fires cancels handsOver := by
  cases stage with
  | pending => exact .pending
  | cancelled => exact .left

/-- A timer that is to be handed over has begun to fire. -/
theorem fires_of_leaving (stage : Stage phase .leaving fires cancels handsOver) : 0 < fires := by
  cases stage
  exact Nat.one_pos

theorem fired_of_fires (stage : Stage phase waiter fires cancels handsOver) (fired : 0 < fires) :
    phase = .fired := by
  cases stage with
  | firing | done => rfl
  | _ => cases fired

theorem handsOver_le (stage : Stage phase waiter fires cancels handsOver) : handsOver ≤ 1 := by
  cases stage <;> decide

theorem cancels_le (stage : Stage phase waiter fires cancels handsOver) : cancels ≤ 1 := by
  cases stage <;> decide

theorem not_both (stage : Stage phase waiter fires cancels handsOver) :
    handsOver = 0 ∨ cancels = 0 := by
  cases stage <;> decide

end Stage

/-- The record tells the stage. -/
def Consistent (watch : Watch τ κ) (record : List (Occurrence τ)) : Prop :=
  Stage watch.timer.phase watch.waiter (record.countP Occurrence.fires)
    (record.countP Occurrence.cancels) (record.countP Occurrence.handsOver)

section Consistent

variable {watch first next : Watch τ κ} {record : List (Occurrence τ)} {occurrence : Occurrence τ}

theorem Consistent.step (consistent : Consistent watch record) (step : Step watch occurrence next) :
    Consistent next (record ++ [occurrence]) := by
  rw [Consistent] at consistent ⊢
  rw [List.countP_append, List.countP_append, List.countP_append]
  cases step with
  | check looks =>
      rw [looks] at consistent
      cases expired : watch.timer.expired watch.clock with
      | true =>
          have pending := Timer.active_iff.mp (Timer.expired_iff.mp expired).1
          rw [pending] at consistent
          rw [check, Timer.check_of_expired expired]
          exact consistent.fire
      | false =>
          rw [check, Timer.check_of_not_expired expired]
          exact consistent.look
  | handOver left =>
      rw [left] at consistent
      exact consistent.handOver
  | setClock clock => exact consistent
  | cancel =>
      cases active : watch.timer.active with
      | true =>
          rw [Timer.active_iff.mp active] at consistent
          rw [Timer.cancel_of_active active]
          exact consistent.cancel
      | false =>
          rw [Timer.cancel_of_ended active]
          exact consistent
  | reschedule time =>
      rw [Timer.phase_reschedule]
      exact consistent

theorem consistent_of_run {clock time : τ} {callback : κ}
    (run : Run (Watch.set clock time callback) record watch) : Consistent watch record := by
  induction run with
  | start => exact .pending
  | step _ step ih => exact ih.step step

omit [Instant τ] in
theorem Consistent.not_cancelled (consistent : Consistent watch record)
    (handed : .handedOver ∈ record) : .cancelled true ∉ record := by
  intro cancelled
  have handsOver : 0 < record.countP Occurrence.handsOver :=
    List.countP_pos_iff.mpr ⟨_, handed, rfl⟩
  have cancels : 0 < record.countP Occurrence.cancels :=
    List.countP_pos_iff.mpr ⟨_, cancelled, rfl⟩
  cases Stage.not_both consistent with
  | inl never => exact absurd never (Nat.ne_of_gt handsOver)
  | inr never => exact absurd never (Nat.ne_of_gt cancels)

omit [Instant τ] in
/-- A timer is not pending any more when it has begun to fire. -/
theorem Consistent.ended (consistent : Consistent watch record) {reading due : τ}
    (checked : .checked reading due true ∈ record) : watch.timer.active = false := by
  have fires : 0 < record.countP Occurrence.fires := List.countP_pos_iff.mpr ⟨_, checked, rfl⟩
  rw [Timer.active, Stage.fired_of_fires consistent fires]
  rfl

/-- A timer that has begun to fire did so in a check, by which its time had come. -/
theorem exists_check_of_run (run : Run first record watch)
    (fired : 0 < record.countP Occurrence.fires) :
    ∃ earlier later middle after, Run first earlier middle ∧
      Step middle (.checked middle.clock middle.timer.executionTime true) after ∧
      record = earlier ++ .checked middle.clock middle.timer.executionTime true :: later ∧
      middle.timer.executionTime - middle.clock ≤ Instant.zero := by
  induction run with
  | start => cases fired
  | @step record occurrence middle last run step ih =>
      cases fires : occurrence.fires with
      | true =>
          cases step with
          | check looks =>
              have expired := Timer.expired_iff.mp (Timer.expired_of_check fires)
              have told : (middle.timer.check middle.clock).1 = true := fires
              have now := Step.check looks
              rw [told] at now
              exact ⟨record, [], middle, _, run, now, by rw [told], expired.2⟩
          | cancel | handOver | setClock | reschedule => cases fires
      | false =>
          have before : 0 < record.countP Occurrence.fires := by
            simpa [List.countP_append, fires] using fired
          obtain ⟨earlier, later, checked, after, runs, steps, rfl, expired⟩ := ih before
          exact ⟨earlier, later ++ [occurrence], checked, after, runs, steps, by simp, expired⟩

end Consistent

/-- In whatever order a waiter looks at its timer, the clock is set, and the timer is cancelled and
moved, the callback is handed over once at most. It is handed over after a check by which the time
came that the timer was set for, and not if a cancellation has succeeded, which happens once at most
as well. When the timer has begun to fire it can neither be cancelled nor moved. -/
theorem watch_is_safe [Instant.LawfulDeadlines τ] (clock time : τ) (callback : κ)
    (record : List (Occurrence τ)) (watch : Watch τ κ)
    (run : Run (Watch.set clock time callback) record watch) :
    record.countP Occurrence.handsOver ≤ 1 ∧
    (∀ next, Step watch .handedOver next → ∃ earlier later middle after,
      Run (Watch.set clock time callback) earlier middle ∧
      Step middle (.checked middle.clock middle.timer.executionTime true) after ∧
      record = earlier ++ .checked middle.clock middle.timer.executionTime true :: later ∧
      (Instant.Finite middle.clock → Instant.Finite middle.timer.executionTime →
        middle.timer.executionTime ≤ middle.clock)) ∧
    (.handedOver ∈ record → .cancelled true ∉ record) ∧
    record.countP Occurrence.cancels ≤ 1 ∧
    ∀ reading due, .checked reading due true ∈ record → ∀ next,
      (∀ outcome, Step watch (.cancelled outcome) next → outcome = false) ∧
      ∀ before after, Step watch (.moved before after) next →
        after = before ∧ next.timer.executionTime = watch.timer.executionTime := by
  have stage := consistent_of_run run
  refine ⟨stage.handsOver_le, ?_, stage.not_cancelled, stage.cancels_le, ?_⟩
  · intro next step
    cases step with
    | handOver left =>
        rw [Consistent, left] at stage
        obtain ⟨earlier, later, middle, after, runs, steps, split, expired⟩ :=
          exists_check_of_run run stage.fires_of_leaving
        refine ⟨earlier, later, middle, after, runs, steps, split, ?_⟩
        intro finite number
        exact (Instant.LawfulDeadlines.sub_le_zero
          (Instant.LawfulDeadlines.comparable number) finite).mp expired
  · intro reading due checked next
    have ended := stage.ended checked
    constructor
    · intro outcome step
      cases step with
      | cancel => rw [Timer.cancel_of_ended ended]
    · intro before after step
      cases step with
      | reschedule time => simp [Timer.reschedule_of_ended ended]

/-- A timer is moved while its waiter waits, and the clock is set back when it has begun to fire. -/
theorem watch_is_safe_of_clock_set_back :
    let first : Watch Float String := .set 0 2 "work"
    let moved : Watch Float String :=
      { first.check with timer := first.check.timer.reschedule 7, clock := 8 }
    let last := { moved.check with clock := 1 }
    let record : List (Occurrence Float) :=
      [.checked 0 2 false, .moved 2 7, .clockSet 8, .checked 8 7 true, .clockSet 1]
    Run first record last ∧ Step last .handedOver { last with waiter := .gone } ∧
      record.countP Occurrence.handsOver ≤ 1 ∧ (7 : Float) ≤ 8 ∧
      last.timer.cancel.1 = false ∧
      (last.timer.reschedule 9).executionTime = last.timer.executionTime := by
  intro first moved last record
  have looks : moved.waiter = .watching := by decide +kernel
  have begins : Run first [] first := .start
  have steps := ((((begins.step (.check rfl)).step (.reschedule 7)).step (.setClock 8)).step
    (.check looks)).step (.setClock 1)
  have run : Run first record last := by
    convert steps using 1
    decide +kernel
  have leaves : last.waiter = .leaving := by decide +kernel
  have handOver : Step last .handedOver { last with waiter := .gone } := .handOver leaves
  have safe := watch_is_safe 0 2 "work" record last run
  have cannot := safe.2.2.2.2 8 7 (by decide +kernel)
  refine ⟨run, handOver, safe.1, ?_, ?_, ?_⟩
  · obtain ⟨earlier, later, middle, after, _, _, split, come⟩ := safe.2.1 _ handOver
    have here : .checked middle.clock middle.timer.executionTime true ∈ record := by
      rw [split]
      simp
    obtain ⟨clock, time⟩ : middle.clock = 8 ∧ middle.timer.executionTime = 7 := by
      simpa [record] using here
    rw [clock, time] at come
    exact come (by decide +kernel) (by decide +kernel)
  · exact (cannot _).1 _ .cancel
  · exact ((cannot _).2 _ _ (.reschedule 9)).1

end Watch

end Debounce
