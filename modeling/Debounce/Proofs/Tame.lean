import Debounce.Proofs.Advances
import Debounce.Proofs.Quiet
import Debounce.Session.Timers

/-!
# Tame callbacks

A tame callback sets, cancels, moves and claims timers in view of what it finds and of what the
clock shows, and leaves the clock alone. It can be followed from its first operation to its end, as
an action on the agenda and on what else a session keeps.
-/

namespace Debounce.TimerSession

/-- What the run of a session has recorded. -/
abbrev History (τ : Type) := List (Moment (Op τ) (Reply τ) (Event τ))

/-- A state of a run of a session. -/
abbrev State (τ : Type) := Config (Op τ) (Reply τ) (Store τ) (Frame τ) (Event τ)

/-- The work that a timer runs when it fires. -/
abbrev Callback (τ : Type) := Option (Work (Op τ) (Reply τ))

variable {τ : Type}

/-- A script that sets, cancels, moves and claims timers in view of what it is told, but neither
moves the clock nor runs other callbacks, and does not fail. The callbacks that it sets are of the
same kind. -/
inductive Tame : Script (Op τ) (Reply τ) → Prop where
  | done (value : Answer τ) : Tame (.done (.ok value))
  | runs (work : WorkId) {next : Nat → Script (Op τ) (Reply τ)} :
      (∀ count, Tame (next count)) → Tame (.runs work next)
  | now {next : Reply τ → Script (Op τ) (Reply τ)} :
      (∀ reply, Tame (next reply)) → Tame (.step .now next)
  | schedule (label : String) (delay : Except Fault τ) {work : Work (Op τ) (Reply τ)}
      {next : Reply τ → Script (Op τ) (Reply τ)} :
      Tame (work.body {}) → (∀ reply, Tame (next reply)) →
      Tame (.step (.schedule label delay (some work)) next)
  | cancel (label : String) {next : Reply τ → Script (Op τ) (Reply τ)} :
      (∀ reply, Tame (next reply)) → Tame (.step (.cancel label) next)
  | reschedule (label : String) (time : Except Fault τ)
      {next : Reply τ → Script (Op τ) (Reply τ)} :
      (∀ reply, Tame (next reply)) → Tame (.step (.reschedule label time) next)
  | claim (label : String) {next : Reply τ → Script (Op τ) (Reply τ)} :
      (∀ reply, Tame (next reply)) → Tame (.step (.claim label) next)

/-- Every pending timer runs a work with a tame script. -/
def TameTimers (agenda : Agenda τ (Callback τ)) : Prop :=
  ∀ id timer, agenda.get? id = some timer → timer.active = true →
    ∃ work, timer.callback = some work ∧ Tame (work.body {})

/-- What callbacks keep beside the agenda: the labels, the counts of runs, and the record. -/
structure Memory (τ : Type) where
  labels : Labels
  runs : Runs
  trace : History τ := []

/-- The operation is one of those in tame scripts. -/
def Op.timeless : Op τ → Bool
  | .schedule _ _ _ | .cancel _ | .reschedule _ _ | .claim _ | .now => true
  | .fire _ | .advance _ => false

variable [Instant τ]

/-- What an operation inside a callback leaves. -/
def after (op : Op τ) (state : Agenda τ (Callback τ) × Memory τ) :
    Agenda τ (Callback τ) × Memory τ :=
  let outcome := start op { agenda := state.1, labels := state.2.labels }
  (outcome.store.agenda,
    { labels := outcome.store.labels
      runs := state.2.runs
      trace := state.2.trace ++ .began op 1 :: outcome.moments op 1 })

/-- What a tame script does, from its first operation to its end. -/
def follow : Script (Op τ) (Reply τ) → Agenda τ (Callback τ) × Memory τ →
    Agenda τ (Callback τ) × Memory τ
  | .done _, state => state
  | .runs work next, state => follow (next (state.2.runs work)) state
  | .step op next, state =>
      match op.timeless, (start op { agenda := state.1, labels := state.2.labels }).next with
      | true, .finish reply => follow (next reply) (after op state)
      | _, _ => state

/-- What the callback of a timer that fires does. -/
def callback : Agenda.Action τ (Callback τ) (Memory τ) := fun id timer state =>
  match timer.callback with
  | none => state
  | some work =>
      follow (work.body {}) (state.1,
        { labels := state.2.labels
          runs := state.2.runs.count work.id
          trace := state.2.trace ++ [.event (.timerFired id timer.executionTime),
            .event (.ran work.id work.name state.1.now [])] })

/-! ## Tame scripts -/

/-- What a timeless operation does to a store. -/
inductive Adjusts (store : Store τ) : Op τ → Outcome τ → Prop where
  | answered {op : Op τ} {reply : Reply τ} : Adjusts store op (answer store reply)
  | set {label : String} {delay : τ} {work? : Callback τ} {labels : Labels} {reply : Reply τ} :
      Adjusts store (.schedule label (.ok delay) work?)
        (answer { agenda := (store.agenda.schedule delay work?).2, labels := labels } reply)
  /-- A timer changes, but it keeps its callback and does not become pending. -/
  | changed {op : Op τ} {id : TimerId}
      {change : Timer τ (Callback τ) → Bool × Timer τ (Callback τ)} {reply : Reply τ} :
      (∀ timer, (change timer).2.callback = timer.callback) →
      (∀ timer, (change timer).2.active = true → timer.active = true) →
      Adjusts store op
        (answer { store with agenda := (store.agenda.update id change).2 } reply)

section Adjusts

variable {op : Op τ} {store : Store τ} {outcome : Outcome τ}

theorem Adjusts.withTimer {label : String} {use : TimerId → Timer τ (Callback τ) → Outcome τ}
    (adjusts : ∀ id timer, Adjusts store op (use id timer)) :
    Adjusts store op (withTimer store label use) := by
  rw [TimerSession.withTimer]
  split
  · exact .answered
  · exact adjusts _ _

theorem adjusts_start (timeless : op.timeless = true) : Adjusts store op (start op store) := by
  cases op with
  | schedule label delay work? =>
      cases delay with
      | error fault => exact .answered
      | ok delay => exact .set
  | cancel label =>
      apply Adjusts.withTimer
      intro id timer
      refine .changed ?_ ?_
      · intro timer
        rw [Timer.cancel]
        split <;> rfl
      · simp
  | reschedule label time =>
      apply Adjusts.withTimer
      intro id timer
      cases time with
      | error fault => exact .answered
      | ok time =>
          refine .changed ?_ ?_
          · intro timer
            simp only [Timer.reschedule]
            split <;> rfl
          · simp
  | claim label =>
      apply Adjusts.withTimer
      intro id timer
      refine .changed ?_ ?_
      · intro timer
        rw [Timer.claim]
        split <;> rfl
      · simp
  | now => exact .answered
  | fire | advance => cases timeless

theorem Adjusts.finishes (adjusts : Adjusts store op outcome) :
    ∃ reply, outcome.next = .finish reply := by
  cases adjusts <;> exact ⟨_, rfl⟩

theorem Adjusts.now (adjusts : Adjusts store op outcome) :
    outcome.store.agenda.now = store.agenda.now := by
  cases adjusts with
  | answered | set => rfl
  | changed => exact Agenda.now_update _ _ _

omit [Instant τ] in
theorem TameTimers.update {agenda : Agenda τ (Callback τ)} (tame : TameTimers agenda) (id : TimerId)
    {change : Timer τ (Callback τ) → Bool × Timer τ (Callback τ)}
    (callback : ∀ timer, (change timer).2.callback = timer.callback)
    (active : ∀ timer, (change timer).2.active = true → timer.active = true) :
    TameTimers (agenda.update id change).2 := by
  intro place timer stored pending
  rw [Agenda.get?_update] at stored
  split at stored
  · rcases Option.map_eq_some_iff.mp stored with ⟨old, storedOld, rfl⟩
    rw [callback]
    exact tame id old storedOld (active old pending)
  · exact tame place timer stored pending

omit [Instant τ] in
theorem TameTimers.add {agenda : Agenda τ (Callback τ)} (tame : TameTimers agenda) (time : τ)
    {work : Work (Op τ) (Reply τ)} (script : Tame (work.body {})) :
    TameTimers (agenda.add time (some work)).2 := by
  intro place timer stored pending
  rw [Agenda.get?_add] at stored
  split at stored
  · cases stored
    exact ⟨work, rfl, script⟩
  · exact tame place timer stored pending

theorem Adjusts.tame (adjusts : Adjusts store op outcome) (tame : TameTimers store.agenda)
    (sets : ∀ label delay work?, op = .schedule label delay work? →
      ∃ work, work? = some work ∧ Tame (work.body {})) : TameTimers outcome.store.agenda := by
  cases adjusts with
  | answered => exact tame
  | set =>
      rcases sets _ _ _ rfl with ⟨work, rfl, script⟩
      exact tame.add _ script
  | changed callback active => exact tame.update _ callback active

end Adjusts

/-- Scripts leave the clock alone when they are followed. -/
theorem follow_now (script : Script (Op τ) (Reply τ)) (state : Agenda τ (Callback τ) × Memory τ) :
    (follow script state).1.now = state.1.now := by
  induction script generalizing state with
  | done reply => rfl
  | runs work next ih => exact ih _ state
  | step op next ih =>
      rw [follow]
      split
      · next timeless _ => exact (ih _ _).trans (adjusts_start timeless).now
      · rfl

theorem timeless_callback :
    Agenda.Timeless (callback : Agenda.Action τ (Callback τ) (Memory τ)) := by
  intro id timer state
  rw [callback]
  split
  · rfl
  · exact follow_now _ _

/-- What callbacks keep, with a record before theirs. -/
def Memory.since (record : History τ) (memory : Memory τ) : Memory τ :=
  { memory with trace := record ++ memory.trace }

/-- What scripts do does not depend on what has been recorded before. -/
theorem follow_since (record : History τ) (script : Script (Op τ) (Reply τ))
    (state : Agenda τ (Callback τ) × Memory τ) :
    follow script (state.map id (Memory.since record)) =
      (follow script state).map id (Memory.since record) := by
  induction script generalizing state with
  | done reply => rfl
  | runs work next ih => exact ih _ state
  | step op next ih =>
      have same : after op (state.map id (Memory.since record)) =
          (after op state).map id (Memory.since record) := by
        simp [after, Memory.since]
      rw [follow, follow, same]
      simp only [Memory.since, Prod.map_fst, Prod.map_snd, id_eq]
      split
      · exact ih _ _
      · rfl

theorem callback_since (record : History τ) (place : TimerId) (timer : Timer τ (Callback τ))
    (state : Agenda τ (Callback τ) × Memory τ) :
    callback place timer (state.map id (Memory.since record)) =
      (callback place timer state).map id (Memory.since record) := by
  rw [callback, callback]
  split
  · rfl
  · rw [← follow_since]
    simp [Memory.since]

end Debounce.TimerSession
