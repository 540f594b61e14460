import Debounce.Proofs.Completion
import Debounce.Proofs.Seconds
import Debounce.Proofs.Tame

/-!
# Virtual time

Only advances move a virtual clock, and they move it forward: to the time of each timer that fires,
and to the deadline in the end, unless the clock is there already. Callbacks may advance the clock
themselves, beyond the deadline of the advance that runs them, and timers may be set for times that
have passed or that are no numbers. No timer fires before its time all the same, and an advance that
returns leaves no timer behind that was due.
-/

namespace Debounce.TimerSession

variable {τ : Type} [Instant τ]

/-- The first state of a session whose clock starts at the given reading. -/
def State.initial (clock : τ) (script : Script (Op τ) (Reply τ)) : State τ :=
  { store := .new clock, script := script }

/-! ## Sections of operations -/

omit [Instant τ] in
@[simp] theorem runCallback_store (store : Store τ) (callback : Callback τ) (frame : Frame τ)
    (events : List (Event τ)) : (runCallback store callback frame events).store = store := by
  cases callback <;> rfl

/-- What a section of an operation does. -/
inductive Passage (store : Store τ) : Outcome τ → Prop where
  | answered {reply : Reply τ} : Passage store (answer store reply)
  | set {time : τ} {callback : Callback τ} {labels : Labels} {reply : Reply τ} :
      Passage store
        (answer { agenda := (store.agenda.add time callback).2, labels := labels } reply)
  /-- A timer changes, but not if it has ended. -/
  | changed {id : TimerId} {change : Timer τ (Callback τ) → Bool × Timer τ (Callback τ)}
      {reply : Reply τ} :
      (∀ timer, timer.active = false → (change timer).2 = timer) →
      Passage store (answer { store with agenda := (store.agenda.update id change).2 } reply)
  /-- A callback runs that nobody advances for. -/
  | called {callback : Callback τ} : Passage store (runCallback store callback .firing [])
  | arrived {deadline : τ} {reply : Reply τ} :
      store.agenda.fireNext? deadline = none →
      Passage store (answer { store with agenda := store.agenda.arrive deadline } reply)
  | fired {deadline : τ} {count : Nat} {id : TimerId} {timer : Timer τ (Callback τ)}
      {agenda : Agenda τ (Callback τ)} :
      store.agenda.fireNext? deadline = some (id, timer, agenda) →
      Passage store
        (runCallback { store with agenda := agenda } timer.callback (.advancing deadline count)
          [.timerFired id timer.executionTime])

section Passages

variable {store : Store τ} {outcome : Outcome τ}

theorem passage_sweep (store : Store τ) (deadline : τ) (fired : Nat) :
    Passage store (sweep store deadline fired) := by
  rw [sweep]
  split
  · next absent => exact .arrived absent
  · next found => exact .fired found

theorem passage_withTimer {label : String} {use : TimerId → Timer τ (Callback τ) → Outcome τ}
    (uses : ∀ id timer, Passage store (use id timer)) :
    Passage store (withTimer store label use) := by
  rw [withTimer]
  split
  · exact .answered
  · exact uses _ _

theorem passage_start (op : Op τ) (store : Store τ) : Passage store (start op store) := by
  cases op with
  | schedule label delay work? =>
      cases delay with
      | error fault => exact .answered
      | ok delay => exact .set
  | cancel label =>
      apply passage_withTimer
      intro id timer
      apply Passage.changed
      intro timer ended
      simp [Timer.cancel, ended]
  | reschedule label time =>
      apply passage_withTimer
      intro id timer
      cases time with
      | error fault => exact .answered
      | ok time =>
          apply Passage.changed
          intro timer ended
          simp [Timer.reschedule, ended]
  | claim label =>
      apply passage_withTimer
      intro id timer
      apply Passage.changed
      intro timer ended
      simp [Timer.claim, ended]
  | fire label =>
      apply passage_withTimer
      intro id timer
      exact .called
  | advance delay =>
      cases delay with
      | error fault => exact .answered
      | ok delay => exact passage_sweep store _ 0
  | now => exact .answered

theorem passage_resume (frame : Frame τ) (reply : Reply τ) (store : Store τ) :
    Passage store (resume frame reply store) := by
  cases reply with
  | error fault => exact .answered
  | ok value =>
      cases frame with
      | firing => exact .answered
      | advancing deadline fired => exact passage_sweep store deadline fired

/-- An invariant of the store that holds through every section is kept by a run. -/
theorem keeps_store {first last : State τ} (reaches : machine.Reaches first last)
    (Inv : Store τ → Prop)
    (passed : ∀ store outcome, Passage store outcome → Inv store → Inv outcome.store)
    (initial : Inv first.store) : Inv last.store :=
  reaches.keeps_store Inv (fun op store => passed store _ (passage_start op store))
    (fun frame reply store => passed store _ (passage_resume frame reply store)) initial

/-- A timer is said to fire where an advance takes the next one that is due. -/
theorem Passage.fired_of_mem (passage : Passage store outcome) {id : TimerId} {time : τ}
    (reported : .timerFired id time ∈ outcome.events) :
    ∃ deadline count timer agenda,
      store.agenda.fireNext? deadline = some (id, timer, agenda) ∧ timer.executionTime = time ∧
      outcome = runCallback { store with agenda := agenda } timer.callback
        (.advancing deadline count) [.timerFired id time] := by
  cases passage with
  | answered | set | changed _ | arrived _ => cases reported
  | @called callback => cases callback <;> simp [runCallback, answer] at reported
  | @fired deadline count place timer agenda found =>
      obtain ⟨rfl, rfl⟩ : id = place ∧ time = timer.executionTime := by
        cases callback : timer.callback <;> simpa [runCallback, answer, callback] using reported
      exact ⟨deadline, count, timer, agenda, found, rfl, rfl⟩

/-- The clock moves forward, if at all. -/
theorem Passage.now_le [Instant.Lawful τ] (passage : Passage store outcome)
    (comparable : store.agenda.now ≤ store.agenda.now) :
    store.agenda.now ≤ outcome.store.agenda.now := by
  cases passage with
  | answered | set => exact comparable
  | changed _ =>
      simp only [answer, Agenda.now_update]
      exact comparable
  | called => simpa using comparable
  | arrived _ => exact Instant.le_later_left comparable _
  | fired found =>
      obtain ⟨_, _, _, rfl⟩ := Agenda.fireNext?_eq_some found
      simpa using Instant.le_later_left comparable _

end Passages

/-! ## Advances -/

section Advances

variable {store : Store τ} {deadline : τ} {count total : Nat} {frame : Frame τ}

/-- An advance that goes on keeps its deadline. -/
theorem frame_of_sweep (goesOn : (sweep store deadline count).next.frame? = some frame) :
    frame = .advancing deadline (count + 1) := by
  rw [sweep] at goesOn
  split at goesOn
  · cases goesOn
  · next id timer agenda found =>
      cases callback : timer.callback with
      | none => simp [runCallback, callback, answer, Next.frame?] at goesOn
      | some work => simpa [runCallback, callback, Next.frame?, eq_comm] using goesOn

/-- Where an advance returns the clock has got to the deadline, and no timer is due. -/
theorem arrived_of_sweep [Instant.Lawful τ] (comparable : store.agenda.now ≤ store.agenda.now)
    (number : deadline ≤ deadline)
    (finishes : (sweep store deadline count).next = .finish (.ok (.count total))) :
    deadline ≤ (sweep store deadline count).store.agenda.now ∧
      ∀ id timer, (sweep store deadline count).store.agenda.get? id = some timer →
        timer.active = true → ¬ timer.executionTime ≤ deadline := by
  rw [sweep] at finishes ⊢
  split at finishes
  · next absent =>
      refine ⟨Instant.le_later_right comparable number, ?_⟩
      intro id timer stored active due
      have pending : store.agenda.get? id = some timer := stored
      exact Agenda.fireNext?_ne_none pending active due absent
  · next id timer agenda found =>
      cases callback : timer.callback <;> simp [runCallback, callback, answer] at finishes

end Advances

/-! ## Runs -/

variable [Instant.Lawful τ] {state later next : State τ}

/-- The clock moves forward in a run. -/
theorem now_le_of_reaches (reaches : machine.Reaches state later)
    (comparable : state.store.agenda.now ≤ state.store.agenda.now) :
    state.store.agenda.now ≤ later.store.agenda.now := by
  refine keeps_store reaches (fun store => state.store.agenda.now ≤ store.agenda.now) ?_ comparable
  intro store outcome passage ahead
  exact Instant.Lawful.le_trans ahead (passage.now_le (Instant.Lawful.le_right ahead))

/-- When a timer fires its time has come, and its callback is what runs next. -/
theorem time_le_of_fired {id : TimerId} {time : τ}
    (comparable : state.store.agenda.now ≤ state.store.agenda.now)
    (records : machine.Records state next (.event (.timerFired id time))) :
    ∃ timer, state.store.agenda.get? id = some timer ∧ timer.active = true ∧
      timer.executionTime = time ∧ time ≤ next.store.agenda.now ∧
      ∀ work, timer.callback = some work → next.script = work.body {} ∧
        ∃ earlier, next.trace = earlier ++ [.event (.timerFired id time),
          .event (.ran work.id work.name next.store.agenda.now [])] := by
  obtain ⟨config, op, rest, outcome, passage, reported, rfl⟩ :=
    records.reported (Passage state.store) (passage_start · _) (passage_resume · · _)
  obtain ⟨deadline, count, timer, agenda, found, rfl, rfl⟩ := passage.fired_of_mem reported
  obtain ⟨stored, active, due, claimed⟩ := Agenda.fireNext?_eq_some found
  refine ⟨timer, stored, active, rfl, ?_, ?_⟩
  · rw [Machine.settle_store, runCallback_store, claimed]
    exact Instant.le_later_right comparable (Instant.Lawful.le_left due)
  · intro work callback
    rw [callback]
    refine ⟨Machine.settle_script_of_enter _ _ _ _ rfl, config.trace, ?_⟩
    rw [Machine.settle_trace, Machine.settle_store, runCallback_store]
    simp [Effect.moments, runCallback]

/-- An advance that returns has got to its deadline, and no timer is due there. -/
theorem arrived_of_completes {delay : τ} {count : Nat}
    (comparable : state.store.agenda.now ≤ state.store.agenda.now)
    (completes : machine.Completes (.advance (.ok delay)) (.ok (.count count)) state later)
    (deadline : state.store.agenda.now + delay ≤ state.store.agenda.now + delay) :
    state.store.agenda.now + delay ≤ later.store.agenda.now ∧
      ∀ id timer, later.store.agenda.get? id = some timer → timer.active = true →
        ¬ timer.executionTime ≤ state.store.agenda.now + delay := by
  have waiting : machine.Waiting (.advance (.ok delay)) state fun frame =>
      ∃ fired, frame = .advancing (state.store.agenda.now + delay) fired := by
    constructor
    · intro frame goesOn
      exact ⟨_, frame_of_sweep goesOn⟩
    · rintro middle _ reply later reaches ⟨fired, rfl⟩ goesOn
      cases reply with
      | error fault => cases goesOn
      | ok value => exact ⟨_, frame_of_sweep goesOn⟩
  rcases completes.last_section waiting with
    ⟨finishes, left⟩ | ⟨middle, _, reply, reaches, ⟨fired, rfl⟩, finishes, left⟩
  · rw [left]
    exact arrived_of_sweep comparable deadline finishes
  · have moved := now_le_of_reaches reaches comparable
    cases reply with
    | error fault => cases finishes
    | ok value =>
        rw [left]
        exact arrived_of_sweep (Instant.Lawful.le_right moved) deadline finishes

/-- Virtual time never runs backwards, whatever is set, moved, cancelled, claimed and advanced, also
by callbacks, and whatever fails. A timer that an advance fires has come to its time when its
callback begins to run. When an advance returns that had a number for its deadline, the clock has
got there, and no pending timer is set for a time up to it. -/
theorem virtual_time_moves_forward (clock : τ) (script : Script (Op τ) (Reply τ)) (state : State τ)
    (comparable : clock ≤ clock) (reaches : machine.Reaches (State.initial clock script) state) :
    (∀ later, machine.Reaches state later →
      state.store.agenda.now ≤ later.store.agenda.now) ∧
    (∀ next id time, machine.Records state next (.event (.timerFired id time)) →
      ∃ timer, state.store.agenda.get? id = some timer ∧ timer.active = true ∧
        timer.executionTime = time ∧ time ≤ next.store.agenda.now ∧
        ∀ work, timer.callback = some work → next.script = work.body {} ∧
          ∃ earlier, next.trace = earlier ++ [.event (.timerFired id time),
            .event (.ran work.id work.name next.store.agenda.now [])]) ∧
    ∀ delay count later,
      machine.Completes (.advance (.ok delay)) (.ok (.count count)) state later →
      state.store.agenda.now + delay ≤ state.store.agenda.now + delay →
        state.store.agenda.now + delay ≤ later.store.agenda.now ∧
        ∀ id timer, later.store.agenda.get? id = some timer → timer.active = true →
          ¬ timer.executionTime ≤ state.store.agenda.now + delay := by
  have forward : clock ≤ state.store.agenda.now := now_le_of_reaches reaches comparable
  have number : state.store.agenda.now ≤ state.store.agenda.now := Instant.Lawful.le_right forward
  refine ⟨fun later reached => now_le_of_reaches reached number, ?_, ?_⟩
  · intro next id time records
    exact time_le_of_fired number records
  · intro delay count later completes deadline
    exact arrived_of_completes number completes deadline

/-- A work that advances the clock by ten seconds. -/
def hurrying : Work (Op Float) (Reply Float) where
  id := [1]
  name := "hurries"
  body _ := .perform (.advance (.ok 10))

/-- The timer that fires here, and the time it was set for. -/
def Moment.firing? {τ : Type} : Moment (Op τ) (Reply τ) (Event τ) → Option (TimerId × τ)
  | .event (.timerFired id time) => some (id, time)
  | _ => none

theorem Moment.eq_of_firing? {τ : Type} {moment : Moment (Op τ) (Reply τ) (Event τ)} {id : TimerId}
    {time : τ} (fires : Moment.firing? moment = some (id, time)) :
    moment = .event (.timerFired id time) := by
  rw [Moment.firing?.eq_def] at fires
  split at fires
  · cases fires
    rfl
  · cases fires

/-- The count that an outermost operation ends with here. -/
def Moment.counted? {τ : Type} : Moment (Op τ) (Reply τ) (Event τ) → Option Nat
  | .ended _ (.ok (.count n)) 0 => some n
  | _ => none

theorem Moment.eq_of_counted? {τ : Type} {moment : Moment (Op τ) (Reply τ) (Event τ)} {n : Nat}
    (counts : Moment.counted? moment = some n) : ∃ op, moment = .ended op (.ok (.count n)) 0 := by
  rw [Moment.counted?.eq_def] at counts
  split at counts
  · cases counts
    exact ⟨_, rfl⟩
  · cases counts

/-- An advance by four seconds fires a timer that was set into the past. Its callback advances the
clock beyond the deadline, and so fires a second timer; the third one is set for a time that is not
a number, and stays. -/
theorem virtual_time_moves_forward_of_three :
    let first := State.initial (0 : Float)
      (.before
        [.schedule "past" (.ok (-3)) (some hurrying),
          .schedule "soon" (.ok 2) (some (.resting [0])),
          .schedule "never" (.ok (0 / 0)) (some (.resting [0])), .advance (.ok 4)]
        (.done (.ok .nothing)))
    let state := machine.run 3 first
    (0 : Float) ≤ 0 ∧ machine.Reaches first state ∧
      (∃ next, machine.Records state next (.event (.timerFired 0 (-3))) ∧
        (-3 : Float) ≤ next.store.agenda.now) ∧
      ∃ later, machine.Completes (.advance (.ok 4)) (.ok (.count 1)) state later ∧
        state.store.agenda.now ≤ later.store.agenda.now ∧
        state.store.agenda.now + 4 ≤ later.store.agenda.now ∧ later.store.agenda.now = 10 ∧
        later.store.agenda.pendingCount = 1 := by
  intro first state
  have comparable : (0 : Float) ≤ 0 := by decide +kernel
  have reaches := Machine.reaches_run machine 3 first
  have all := virtual_time_moves_forward 0 _ state comparable reaches
  have number : state.store.agenda.now + 4 ≤ state.store.agenda.now + 4 := by decide +kernel
  refine ⟨comparable, reaches, ?_, ?_⟩
  · have fires : (machine.step? state).any (fun next =>
        (next.trace.drop state.trace.length).any fun moment =>
          decide (Moment.firing? moment = some (0, -3))) = true := by decide +kernel
    obtain ⟨next, moment, records, found⟩ := Machine.exists_records fires
    rw [Moment.eq_of_firing? (of_decide_eq_true found)] at records
    obtain ⟨timer, stored, active, time, passed, runs⟩ := all.2.1 next 0 (-3) records
    exact ⟨next, records, passed⟩
  · let middle := machine.run 3 state
    have counts : (machine.step? middle).any (fun next =>
        (next.trace.drop middle.trace.length).any fun moment =>
          decide (Moment.counted? moment = some 1)) = true := by decide +kernel
    obtain ⟨later, moment, records, found⟩ := Machine.exists_records counts
    obtain ⟨op, rfl⟩ := Moment.eq_of_counted? (of_decide_eq_true found)
    have left : (machine.step? middle).all (fun next =>
        decide (next.store.agenda.now = 10 ∧ next.store.agenda.pendingCount = 1)) = true := by
      decide +kernel
    rw [records.1] at left
    have inside := Machine.reaches_run machine 3 state
    have completes : machine.Completes (.advance (.ok 4)) (.ok (.count 1)) state later :=
      Machine.completes_of_countP rfl inside (by decide +kernel) records
    obtain ⟨clock, pending⟩ := of_decide_eq_true left
    exact ⟨later, completes, all.1 later (inside.step records.1),
      (all.2.2 4 1 later completes number).1, clock, pending⟩

end Debounce.TimerSession
