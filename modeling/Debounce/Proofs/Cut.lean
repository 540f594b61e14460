import Debounce.Proofs.Tame

/-!
# Cutting an advance in two

An advance that is cut in two fires the same timers in the same order as an advance in one go, with
the same readings of the clock, whatever the callbacks of the timers make of what they find, as long
as they leave the clock alone. At the cut the clock stands at the first deadline, which no callback
ever sees.
-/

namespace Debounce.TimerSession

variable {τ : Type} [Instant τ]

/-! ## The run of an advance -/

/-- The state of a run while an advance waits for a callback. -/
def inside (op : Op τ) (frame : Frame τ) (before : History τ)
    (state : Agenda τ (Callback τ) × Memory τ) (script : Script (Op τ) (Reply τ)) : State τ where
  store := { agenda := state.1, labels := state.2.labels }
  runs := state.2.runs
  script := script
  stack := [⟨op, frame, .done⟩]
  trace := before ++ state.2.trace

section Inside

variable {op : Op τ} {frame : Frame τ} {before : History τ}
variable {state : Agenda τ (Callback τ) × Memory τ} {script : Script (Op τ) (Reply τ)}

theorem step?_inside {asked : Op τ} {next : Reply τ → Script (Op τ) (Reply τ)} {reply : Reply τ}
    (finishes :
      (start asked { agenda := state.1, labels := state.2.labels }).next = .finish reply) :
    machine.step? (inside op frame before state (.step asked next)) =
      some (inside op frame before (after asked state) (next reply)) := by
  simp [Machine.step?, inside, Machine.settle, machine, finishes, after, Effect.moments]

/-- The script runs to its end, does what it does when it is followed, and leaves the callbacks
tame. -/
def RunsThrough (op : Op τ) (frame : Frame τ) (before : History τ)
    (script : Script (Op τ) (Reply τ)) : Prop :=
  ∀ state : Agenda τ (Callback τ) × Memory τ, TameTimers state.1 →
    TameTimers (follow script state).1 ∧
      ∃ value, machine.Reaches (inside op frame before state script)
        (inside op frame before (follow script state) (.done (.ok value)))

theorem RunsThrough.step {asked : Op τ} {next : Reply τ → Script (Op τ) (Reply τ)}
    (timeless : asked.timeless = true)
    (sets : ∀ label delay work?, asked = .schedule label delay work? →
      ∃ work, work? = some work ∧ Tame (work.body {}))
    (rest : ∀ reply, RunsThrough op frame before (next reply)) :
    RunsThrough op frame before (.step asked next) := by
  intro state timers
  let store : Store τ := { agenda := state.1, labels := state.2.labels }
  have adjusts : Adjusts store asked (start asked store) := adjusts_start timeless
  rcases adjusts.finishes with ⟨reply, finishes⟩
  have follows : follow (.step asked next) state = follow (next reply) (after asked state) := by
    rw [follow, timeless, finishes]
  rcases rest reply (after asked state) (adjusts.tame timers sets) with ⟨tame, value, reaches⟩
  rw [follows]
  exact ⟨tame, value, (Machine.Reaches.refl.step (step?_inside finishes)).trans reaches⟩

theorem Tame.runsThrough (tame : Tame script) : RunsThrough op frame before script := by
  induction tame with
  | done value => exact fun state timers => ⟨timers, value, .refl⟩
  | runs work _ ih =>
      intro state timers
      rcases ih (state.2.runs work) state timers with ⟨tame, value, reaches⟩
      exact ⟨tame, value, (Machine.Reaches.refl.step rfl).trans reaches⟩
  | schedule label delay script _ _ ih =>
      refine .step rfl ?_ ih
      rintro _ _ _ ⟨⟩
      exact ⟨_, rfl, script⟩
  | now _ ih => exact .step rfl (by simp) ih
  | cancel _ _ ih => exact .step rfl (by simp) ih
  | reschedule _ _ _ ih => exact .step rfl (by simp) ih
  | claim _ _ ih => exact .step rfl (by simp) ih

end Inside

/-- The state of a run in which an advance has just looked for the next timer. -/
def sweeping (op : Op τ) (deadline : τ) (count : Nat) (before : History τ)
    (state : Agenda τ (Callback τ) × Memory τ) : State τ :=
  let store : Store τ := { agenda := state.1, labels := state.2.labels }
  Machine.settle
    { store := store
      runs := state.2.runs
      script := .done (.ok .nothing)
      trace := before ++ state.2.trace }
    op .done (sweep store deadline count)

/-- The state of a run in which an advance has ended. -/
def swept (op : Op τ) (count : Nat) (before : History τ)
    (state : Agenda τ (Callback τ) × Memory τ) : State τ where
  store := { agenda := state.1, labels := state.2.labels }
  runs := state.2.runs
  script := .done (.ok (.count count))
  trace := before ++ state.2.trace ++ [.ended op (.ok (.count count)) 0]

omit [Instant τ] in
/-- What the script of a state is does not matter when an operation goes on or ends. -/
theorem settle_script (config : State τ) (script : Script (Op τ) (Reply τ)) (op : Op τ)
    (next : Reply τ → Script (Op τ) (Reply τ)) (outcome : Outcome τ) :
    Machine.settle { config with script := script } op next outcome =
      Machine.settle config op next outcome := by
  rw [Machine.settle, Machine.settle]

section Sweeping

variable {op : Op τ} {deadline : τ} {count fuel : Nat} {before : History τ}
variable {agenda fired : Agenda τ (Callback τ)} {memory : Memory τ}
variable {state last : Agenda τ (Callback τ) × Memory τ} {id : TimerId}
variable {timer : Timer τ (Callback τ)}

theorem sweeping_of_none (absent : agenda.fireNext? deadline = none) :
    sweeping op deadline count before (agenda, memory) =
      swept op count before (agenda.arrive deadline, memory) := by
  simp [sweeping, swept, sweep, absent, answer, Machine.settle]

/-- When a timer fires, its callback runs to its end, and then the advance looks for the next one.
-/
theorem sweeping_of_some (timers : TameTimers agenda)
    (found : agenda.fireNext? deadline = some (id, timer, fired)) :
    TameTimers (callback id timer (fired, memory)).1 ∧
      ∃ returned, machine.Reaches (sweeping op deadline count before (agenda, memory)) returned ∧
        machine.step? returned =
          some (sweeping op deadline (count + 1) before (callback id timer (fired, memory))) := by
  rcases Agenda.fireNext?_eq_some found with ⟨stored, active, _, claimed⟩
  rcases timers id timer stored active with ⟨work, runs, tame⟩
  have left : TameTimers fired := by
    have claims : TameTimers (agenda.claim id).2 := by
      refine timers.update id ?_ (by simp)
      intro timer
      rw [Timer.claim]
      split <;> rfl
    rw [claimed]
    exact claims
  let entered : Agenda τ (Callback τ) × Memory τ :=
    (fired,
      { labels := memory.labels
        runs := memory.runs.count work.id
        trace := memory.trace ++ [.event (.timerFired id timer.executionTime),
          .event (.ran work.id work.name fired.now [])] })
  have enters : sweeping op deadline count before (agenda, memory) =
      inside op (.advancing deadline (count + 1)) before entered (work.body {}) := by
    simp [sweeping, sweep, found, runCallback, runs, Machine.settle, inside, entered]
  have acts : callback id timer (fired, memory) = follow (work.body {}) entered := by
    simp only [callback, runs, entered]
  rcases tame.runsThrough entered left with ⟨still, value, reaches⟩
  rw [acts, enters]
  refine ⟨still, _, reaches, ?_⟩
  simp only [Machine.step?, inside, machine, resume, sweeping, Option.some.injEq]
  let left := follow (work.body {}) entered
  exact settle_script
    { store := { agenda := left.1, labels := left.2.labels }
      runs := left.2.runs
      script := .done (.ok .nothing)
      trace := before ++ left.2.trace } _ _ _ _

/-- An advance that is told by the timers that fire comes to its end. -/
theorem reaches_swept (timers : TameTimers state.1) {firings : List (Agenda.Firing τ)}
    (advances : Agenda.Advances callback deadline state firings last) :
    TameTimers last.1 ∧ machine.Reaches (sweeping op deadline count before state)
      (swept op (count + firings.length) before last) := by
  induction advances generalizing count with
  | arrived absent => exact ⟨timers, sweeping_of_none absent ▸ .refl⟩
  | @fired agenda fired memory id timer firings last found _ ih =>
      rcases sweeping_of_some timers found with ⟨still, returned, reaches, stepped⟩
      rcases ih still with ⟨tame, rest⟩
      refine ⟨tame, (reaches.step stepped).trans ?_⟩
      rw [List.length_cons, ← Nat.add_assoc, Nat.add_right_comm]
      exact rest

/-- An advance that comes to its end can be told by the timers that fire. -/
theorem exists_advances (timers : TameTimers state.1) {final : State τ}
    (ended : machine.step? final = none)
    (ran : machine.run fuel (sweeping op deadline count before state) = final) :
    ∃ firings last, Agenda.Advances callback deadline state firings last := by
  induction fuel using Nat.strong_induction_on generalizing count state with
  | _ fuel ih =>
      obtain ⟨agenda, memory⟩ := state
      cases found : agenda.fireNext? deadline with
      | none => exact ⟨[], _, .arrived found⟩
      | some next =>
          obtain ⟨id, timer, fired⟩ := next
          rcases sweeping_of_some timers found with ⟨still, returned, reaches, stepped⟩
          rcases Machine.run_after reaches ended ran with ⟨remaining, bound, reached⟩
          cases remaining with
          | zero =>
              rw [Machine.run] at reached
              rw [← reached, stepped] at ended
              cases ended
          | succ left =>
              rw [Machine.run, stepped] at reached
              rcases ih left bound still reached with ⟨firings, last, advances⟩
              exact ⟨_, last, .fired found advances⟩

/-- An advance that has been performed: how many timers have fired, and what was recorded in
between. -/
def advanced (delay : τ) (count : Nat) (recorded : History τ) (store : Store τ) (runs : Runs) :
    Machine.Performed (Op τ) (Reply τ) (Store τ) (Event τ) :=
  let op : Op τ := .advance (.ok delay)
  { reply := .ok (.count count)
    store := store
    runs := runs
    trace := .began op 0 :: recorded ++ [.ended op (.ok (.count count)) 0] }

/-- The store that the state of an advance stands for. -/
def storeOf (state : Agenda τ (Callback τ) × Memory τ) : Store τ where
  agenda := state.1
  labels := state.2.labels

/-- The state at the begin of an advance. -/
def Store.opening (store : Store τ) (runs : Runs) : Agenda τ (Callback τ) × Memory τ :=
  (store.agenda, { labels := store.labels, runs := runs })

variable {store : Store τ} {runs : Runs} {delay : τ} {firings : List (Agenda.Firing τ)}

/-- The first step of an advance. -/
theorem step?_advance :
    machine.step?
        { store := store, runs := runs, script := .perform (.advance (.ok delay)) } =
      some (sweeping (.advance (.ok delay)) (store.agenda.now + delay) 0
        [.began (.advance (.ok delay)) 0] (store.opening runs)) := by
  let begun : State τ :=
    { store := store
      runs := runs
      script := .done (.ok .nothing)
      trace := [.began (.advance (.ok delay)) 0] }
  exact congrArg some (settle_script begun _ _ _ _)

/-- The firings of an advance tell what it leaves and records, and what it leaves is tame. -/
theorem perform?_of_advances (timers : TameTimers store.agenda)
    (advances : Agenda.Advances callback (store.agenda.now + delay) (store.opening runs) firings
      last) :
    TameTimers last.1 ∧
      machine.Finishes (.advance (.ok delay)) store runs
        (advanced delay firings.length last.2.trace (storeOf last) last.2.runs) := by
  rcases reaches_swept timers advances with ⟨tame, sweeps⟩
  have reaches := (Machine.Reaches.refl.step step?_advance).trans sweeps
  refine ⟨tame, ?_⟩
  filter_upwards [Machine.run_of_reaches reaches rfl] with fuel ended
  simp [Machine.perform?, ended, swept, advanced, storeOf]

/-- An advance that is performed to its end is told by the timers that fire. -/
theorem advances_of_perform? (timers : TameTimers store.agenda)
    {performed : Machine.Performed (Op τ) (Reply τ) (Store τ) (Event τ)}
    (performs : machine.perform? fuel (.advance (.ok delay)) store runs = some performed) :
    ∃ firings last,
      Agenda.Advances callback (store.agenda.now + delay) (store.opening runs) firings last ∧
      performed = advanced delay firings.length last.2.trace (storeOf last) last.2.runs := by
  have final := Machine.step?_of_perform? performs
  rcases Machine.run_after (Machine.Reaches.refl.step step?_advance) final rfl with
    ⟨left, _, reached⟩
  rcases exists_advances timers final reached with ⟨firings, last, advances⟩
  have finishes := (perform?_of_advances timers advances).2
  exact ⟨firings, last, advances, (Machine.finishes_of_perform? performs).unique finishes⟩

end Sweeping

/-! ## The cut -/

/-- Cutting an advance in two changes nothing. The timers that fire, in their order and with the
readings of the clock, and what is left of the agenda and of all that callbacks keep, are the same
for two advances, one after the other, as for one over the sum of the delays, whatever callbacks
make of the agenda that they find. So the records of the two, put together, are the record of the
one, and the numbers of timers fired add up. -/
theorem advance_cut_in_two (near far : Rat) (nearForward : 0 ≤ near) (farForward : 0 ≤ far) :
    (∀ {κ Memory : Type} (act : Agenda.Action Rat κ Memory), Agenda.Timeless act →
      ∀ state firings last,
        Agenda.Advances act (state.1.now + (near + far)) state firings last ↔
          ∃ earlier middle later,
            Agenda.Advances act (state.1.now + near) state earlier middle ∧
            Agenda.Advances act (middle.1.now + far) middle later last ∧
            firings = earlier ++ later) ∧
    ∀ store runs fuel whole, TameTimers store.agenda →
      machine.perform? fuel (.advance (.ok (near + far))) store runs = some whole →
      ∃ n earlier middle counts m later,
        (∀ᶠ fuel in Filter.atTop, machine.perform? fuel (.advance (.ok near)) store runs =
          some (advanced near n earlier middle counts)) ∧
        (∀ᶠ fuel in Filter.atTop, machine.perform? fuel (.advance (.ok far)) middle counts =
          some (advanced far m later whole.store whole.runs)) ∧
        whole = advanced (near + far) (n + m) (earlier ++ later) whole.store whole.runs := by
  have ordered (now : Rat) : now + near ≤ now + (near + far) := by grind
  have started (now : Rat) : now ≤ now + near := by grind
  refine ⟨?_, ?_⟩
  · intro κ Memory act timeless state firings last
    constructor
    · intro whole
      rcases whole.cut timeless (ordered _) (started _) with
        ⟨earlier, middle, later, first, now, second, same⟩
      refine ⟨earlier, middle, later, first, ?_, same⟩
      rwa [now, Rat.add_assoc]
    · rintro ⟨earlier, middle, later, first, second, rfl⟩
      rw [first.now_eq timeless (started _), Rat.add_assoc] at second
      exact first.join (ordered _) second
  · intro store runs fuel whole timers performs
    rcases advances_of_perform? timers performs with ⟨firings, last, advances, rfl⟩
    rcases advances.cut timeless_callback (ordered _) (started _) with
      ⟨earlier, middle, later, first, now, second, rfl⟩
    -- The second advance begins its own record.
    have whole : (((storeOf middle).opening middle.2.runs).map id
        (Memory.since middle.2.trace)) = middle := by
      simp [Store.opening, storeOf, Memory.since]
    rw [← whole] at second
    rcases second.of_map (callback_since _) with ⟨kept, remaining, rfl⟩
    have rest : Agenda.Advances callback ((storeOf middle).agenda.now + far)
        ((storeOf middle).opening middle.2.runs) later kept := by
      rwa [← Rat.add_assoc, ← now] at remaining
    rcases perform?_of_advances timers first with ⟨tame, performsFirst⟩
    rcases perform?_of_advances tame rest with ⟨_, performsSecond⟩
    refine ⟨_, _, _, _, _, _, performsFirst, performsSecond, ?_⟩
    rw [List.length_append]
    rfl

/-- A work that sets one timer and moves another one, to times that depend on the clock. -/
def relaying : Work (Op Rat) (Reply Rat) where
  id := [1]
  name := "relays"
  body _ := .step .now fun
    | .ok (.instant now) => .before
        [.schedule "echo" (.ok (now + 1)) (some (.resting [0])),
          .reschedule "late" (.ok (now + now))]
        (.done (.ok .nothing))
    | _ => .done (.ok .nothing)

/-- Two timers, one of which relays. -/
def relayed : Store Rat where
  agenda := ((Agenda.add { now := (0 : Rat) } 1 (some relaying)).2.add 9 (some (.resting [0]))).2
  labels := Labels.insert [] "late" 1

theorem tame_relaying : Tame (relaying.body {}) := by
  refine .now ?_
  intro reply
  split
  · exact .schedule _ _ (.done _) fun _ => .reschedule _ _ fun _ => .done _
  · exact .done _

theorem tameTimers_relayed : TameTimers relayed.agenda := by
  have none : TameTimers ({ now := 0 } : Agenda Rat (Callback Rat)) := by
    intro id timer stored
    cases stored
  have ends : Tame ((Work.resting [0]).body {} : Script (Op Rat) (Reply Rat)) := .done _
  exact (none.add 1 tame_relaying).add 9 ends

/-- The count that an advance replies. -/
def count? {τ : Type} : Reply τ → Option Nat
  | .ok (.count n) => some n
  | _ => none

theorem eq_of_count? {τ : Type} {reply : Reply τ} {n : Nat} (counted : count? reply = some n) :
    reply = .ok (.count n) := by
  rw [count?.eq_def] at counted
  split at counted
  · cases counted
    rfl
  · cases counted

/-- Three timers fire. The callback of the first one moves a timer back to the time of the cut, and
sets one that fires after it. -/
theorem advance_cut_in_two_of_relayed :
    ∃ whole, machine.perform? 12 (.advance (.ok 5)) relayed Runs.none = some whole ∧
      whole.reply = .ok (.count 3) ∧ ∃ n earlier middle counts m later,
        (∀ᶠ fuel in Filter.atTop, machine.perform? fuel (.advance (.ok 2)) relayed Runs.none =
          some (advanced 2 n earlier middle counts)) ∧
        (∀ᶠ fuel in Filter.atTop, machine.perform? fuel (.advance (.ok 3)) middle counts =
          some (advanced 3 m later whole.store whole.runs)) ∧
        n + m = 3 := by
  have replies : ((machine.perform? 12 (.advance (.ok 5)) relayed Runs.none).bind fun performed =>
      count? performed.reply) = some 3 := by decide +kernel
  obtain ⟨⟨reply, store, runs, trace⟩, performs, counted⟩ := Option.bind_eq_some_iff.mp replies
  obtain rfl : reply = .ok (.count 3) := eq_of_count? counted
  have sum : (2 : Rat) + 3 = 5 := by decide +kernel
  rcases (advance_cut_in_two 2 3 (by decide) (by decide)).2 relayed Runs.none 12 _
    tameTimers_relayed (sum ▸ performs) with
    ⟨n, earlier, middle, counts, m, later, first, second, same⟩
  refine ⟨_, performs, rfl, n, earlier, middle, counts, m, later, first, second, ?_⟩
  simpa [advanced] using (congrArg (·.reply) same).symm

end Debounce.TimerSession
