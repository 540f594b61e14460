import Debounce.Proofs.Closing
import Debounce.Proofs.Endings
import Debounce.Proofs.Queue
import Mathlib.Data.List.Forall2

/-!
# Sweeps with passive callbacks

A passive callback returns, and does nothing on the way but read the clock. An advance whose
callbacks are passive fires the timers that are due in the order of the queue: the clock stands at
each timer's time while its work runs, or stays where it was if that is later, and comes to the
deadline in the end. Instants that are no numbers are never due, and as a deadline they make nothing
due.
-/

namespace Debounce

namespace Instant

/-- A sum is a number only if what is added to is one. -/
class LawfulSums (τ : Type) [Instant τ] : Prop extends LawfulDeadlines τ where
  comparable_of_add {a b : τ} : a + b ≤ a + b → a ≤ a

instance : LawfulSums Rat where
  comparable_of_add _ := Rat.le_refl

variable {τ : Type} [Instant τ] {a b c : τ}

/-- The readings are equal, as the two zeros of double precision are. -/
def Agree (a b : τ) : Prop := a ≤ b ∧ b ≤ a

/-- The clock is not moved on to what is no number. -/
theorem later_of_not_comparable [Lawful τ] (missing : ¬ b ≤ b) (a : τ) : later a b = a := by
  rw [later, if_neg]
  intro earlier
  exact missing (Lawful.le_right (Lawful.le_of_lt earlier))

theorem Agree.trans [Lawful τ] (first : Agree a b) (second : Agree b c) : Agree a c :=
  ⟨Lawful.le_trans first.1 second.1, Lawful.le_trans second.2 first.2⟩

/-- A clock that stops on its way shows the same in the end. -/
theorem later_later_agree [Lawful τ] (comparable : a ≤ a) (ordered : b ≤ c) :
    Agree (later (later a b) c) (later a c) := by
  have left := Lawful.le_left ordered
  have right := Lawful.le_right ordered
  have stopped : a ≤ later a b := le_later_left comparable b
  constructor
  · apply later_le
    · exact later_le (le_later_left comparable c)
        (Lawful.le_trans ordered (le_later_right comparable right))
    · exact le_later_right comparable right
  · apply later_le
    · exact Lawful.le_trans stopped (le_later_left (Lawful.le_right stopped) c)
    · exact le_later_right (Lawful.le_right stopped) right

end Instant

namespace Double

open Float.Model

/-- A sum is a number only if what is added to is one. -/
theorem isNumber_of_add {x y : Float} (isNumber : IsNumber (x + y)) : IsNumber x := by
  have sum : (pack (UnpackedFloat.add Format.binary64 x.toModel.unpack y.toModel.unpack)).unpack ≠
      .notANumber := isNumber
  intro missing
  rw [missing] at sum
  exact absurd unpack_pack_notANumber sum

instance : Instant.LawfulSums Float where
  comparable_of_add comparable := le_self_iff.mpr (isNumber_of_add (le_self_iff.mp comparable))

end Double

namespace TimerSession

variable {τ : Type} [Instant τ]

/-- A script that returns, and does nothing on the way but read the clock. -/
inductive Passive : Script (Op τ) (Reply τ) → Prop where
  | done (value : Answer τ) : Passive (.done (.ok value))
  | now {next : Reply τ → Script (Op τ) (Reply τ)} :
      (∀ reading, Passive (next (.ok (.instant reading)))) → Passive (.step .now next)
  | runs (work : WorkId) {next : Nat → Script (Op τ) (Reply τ)} :
      (∀ count, Passive (next count)) → Passive (.runs work next)

/-- The script ends with the reply while the clock shows the given reading, and does nothing on the
way but read it. -/
inductive Answers (runs : Runs) (reading : τ) : Script (Op τ) (Reply τ) → Reply τ → Prop where
  | done (reply : Reply τ) : Answers runs reading (.done reply) reply
  | now {next : Reply τ → Script (Op τ) (Reply τ)} {reply : Reply τ} :
      Answers runs reading (next (.ok (.instant reading))) reply →
      Answers runs reading (.step .now next) reply
  | runs {work : WorkId} {next : Nat → Script (Op τ) (Reply τ)} {reply : Reply τ} :
      Answers runs reading (next (runs work)) reply →
      Answers runs reading (.runs work next) reply

section Scripts

variable {script : Script (Op τ) (Reply τ)} {runs : Runs} {reading : τ} {reply : Reply τ}

omit [Instant τ] in
theorem Passive.answers (passive : Passive script) (runs : Runs) (reading : τ) :
    ∃ value, Answers runs reading script (.ok value) := by
  induction passive with
  | done value => exact ⟨value, .done _⟩
  | now _ ih => exact (ih reading).imp fun _ answers => .now answers
  | runs work _ ih => exact (ih (runs work)).imp fun _ answers => .runs answers

/-- The script comes to its end, and changes nothing but the record, where it reports nothing. -/
theorem Answers.returns (answers : Answers runs reading script reply) (config : State τ)
    (begins : config.script = script) (counted : config.runs = runs)
    (clock : config.store.agenda.now = reading) :
    ∃ ended inside, machine.Returns reply config ended inside ∧ ended.store = config.store ∧
      ended.runs = config.runs ∧ ∀ told, .event told ∉ inside := by
  induction answers generalizing config with
  | done reply => exact ⟨config, [], Machine.returns_done begins, rfl, rfl, by simp⟩
  | @now next reply _ ih =>
      subst clock
      let reads := machine.start .now config.store
      let read : State τ :=
        { config with
          store := reads.store
          script := next (.ok (.instant config.store.agenda.now))
          trace := config.trace ++ .began .now config.stack.length ::
            reads.moments .now config.stack.length }
      obtain ⟨ended, inside, returns, store, runs, silent⟩ := ih read rfl counted rfl
      refine ⟨ended, _, .start begins rfl returns, store, runs, ?_⟩
      intro told member
      simp only [List.mem_cons, List.mem_append, Effect.event_mem_moments, reduceCtorEq,
        false_or] at member
      exact member.elim (fun reported => nomatch reported) (silent told)
  | @runs work next reply _ ih =>
      subst counted
      let asked : State τ := { config with script := next (config.runs work) }
      obtain ⟨ended, inside, returns, store, runs, silent⟩ := ih asked rfl rfl clock
      exact ⟨ended, inside, returns.ask begins, store, runs, silent⟩

end Scripts

/-- A timer fires whose callback answers, and the advance gets to its end if it does so from where
it goes on. -/
theorem closes_firing {op : Op τ} {next : Reply τ → Script (Op τ) (Reply τ)} {config : State τ}
    {store : Store τ} {deadline : τ} {count : Nat} {id : TimerId} {timer : Timer τ (Callback τ)}
    {fired : Agenda τ (Callback τ)} {work : Work (Op τ) (Reply τ)} {answered reply : Reply τ}
    (found : store.agenda.fireNext? deadline = some (id, timer, fired))
    (callback : timer.callback = some work)
    (answers : Answers (config.runs.count work.id) fired.now (work.body {}) answered)
    {Ends : State τ → History τ → Prop}
    (rest : ∀ resumed : State τ, resumed.store = { store with agenda := fired } →
      resumed.runs = config.runs.count work.id →
      ∃ last during,
        machine.Closes op next reply resumed
          (Machine.settle resumed op next
            (resume (.advancing deadline (count + 1)) answered resumed.store)) last during ∧
        Ends last during) :
    ∃ last inside during,
      machine.Closes op next reply config
        (Machine.settle config op next (sweep store deadline count)) last
        (.event (.timerFired id timer.executionTime) ::
          .event (.ran work.id work.name fired.now []) :: (inside ++ during)) ∧
      (∀ told, .event told ∉ inside) ∧ Ends last during := by
  let outcome := runCallback { store with agenda := fired } (some work)
    (.advancing deadline (count + 1)) [.timerFired id timer.executionTime]
  have fires : sweep store deadline count = outcome := by
    rw [sweep, found]
    simp only [callback, outcome]
  obtain ⟨ended, inside, returns, kept, ran, silent⟩ :=
    answers.returns (Machine.settle config op next outcome) rfl rfl rfl
  obtain ⟨last, during, closes, ends⟩ := rest { ended with stack := config.stack } kept ran
  rw [fires]
  exact ⟨last, inside, during, .enter rfl returns closes, silent, ends⟩

/-! ## Sweeps -/

/-- What is reported of a timer that fires in an advance from the reading: its place and its time,
and that its work runs while the clock shows the later one of the reading and this time. -/
def FiredFrom (reading : τ) (entry : TimerId × Timer τ (Callback τ)) (events : List (Event τ)) :
    Prop :=
  ∃ work now, entry.2.callback = some work ∧
    Instant.Agree now (Instant.later reading entry.2.executionTime) ∧
    events = [.timerFired entry.1 entry.2.executionTime, .ran work.id work.name now []]

/-- What a sweep that fires the timers of the queue leaves and records. -/
structure Emptied (deadline : τ) (before after : Store τ)
    (queue : List (TimerId × Timer τ (Callback τ))) (during : History τ) : Prop where
  labels : after.labels = before.labels
  timers : after.agenda.timers = before.agenda.timers.map (Timer.swept deadline)
  /-- The clock comes to the deadline, unless it was later. -/
  arrives : deadline ≤ deadline →
    Instant.Agree after.agenda.now (Instant.later before.agenda.now deadline)
  /-- A deadline that is no number makes nothing due. -/
  stays : ¬ deadline ≤ deadline → queue = [] ∧ after.agenda = before.agenda
  told : ∃ firings, reported during = firings.flatten ∧
    List.Forall₂ (FiredFrom before.agenda.now) queue firings

section Emptied

variable [Instant.Lawful τ] {deadline : τ} {store after : Store τ} {during : History τ}

/-- What fires in the rest of a sweep, seen from where the sweep began. -/
theorem FiredFrom.of_later {reading time : τ} {entry : TimerId × Timer τ (Callback τ)}
    {events : List (Event τ)} (comparable : reading ≤ reading)
    (ordered : time ≤ entry.2.executionTime)
    (fired : FiredFrom (Instant.later reading time) entry events) :
    FiredFrom reading entry events := by
  obtain ⟨work, now, callback, shown, told⟩ := fired
  exact ⟨work, now, callback, shown.trans (Instant.later_later_agree comparable ordered), told⟩

/-- Where no timer is due the clock arrives, and that is all. -/
theorem Emptied.nil (absent : store.agenda.fireNext? deadline = none)
    (comparable : deadline ≤ deadline → store.agenda.now ≤ store.agenda.now) :
    Emptied deadline store { store with agenda := store.agenda.arrive deadline } [] [] where
  labels := rfl
  timers := (Agenda.map_swept_of_none absent).symm
  arrives := by
    intro number
    have arrived := Instant.Lawful.le_right (Instant.le_later_left (comparable number) deadline)
    exact ⟨arrived, arrived⟩
  stays := by
    intro missing
    simp [Agenda.arrive, Instant.later_of_not_comparable missing]
  told := ⟨[], rfl, .nil⟩

/-- A timer that fires is the head of the queue. -/
theorem Emptied.cons {agenda : Agenda τ (Callback τ)} {id : TimerId}
    {timer : Timer τ (Callback τ)} {queue : List (TimerId × Timer τ (Callback τ))}
    {work : Work (Op τ) (Reply τ)} {inside : History τ}
    (found : store.agenda.fireNext? deadline = some (id, timer, agenda))
    (comparable : deadline ≤ deadline → store.agenda.now ≤ store.agenda.now)
    (callback : timer.callback = some work) (silent : ∀ told, .event told ∉ inside)
    (later : ∀ entry ∈ queue, timer.executionTime ≤ entry.2.executionTime)
    (emptied : Emptied deadline { store with agenda := agenda } after queue during) :
    Emptied deadline store after ((id, timer) :: queue)
      (.event (.timerFired id timer.executionTime) ::
        .event (.ran work.id work.name agenda.now []) :: (inside ++ during)) := by
  obtain ⟨_, _, early, claimed⟩ := Agenda.fireNext?_eq_some found
  have clock : agenda.now = Instant.later store.agenda.now timer.executionTime := by rw [claimed]
  have number := comparable (Instant.Lawful.le_right early)
  have arrived := Instant.Lawful.le_right (Instant.le_later_left number timer.executionTime)
  obtain ⟨firings, told, fired⟩ := emptied.told
  refine ⟨emptied.labels, ?_, ?_, ?_, ?_⟩
  · exact emptied.timers.trans (Agenda.map_swept_of_fireNext? found)
  · intro number'
    apply (emptied.arrives number').trans
    rw [clock]
    exact Instant.later_later_agree number early
  · intro missing
    exact absurd (Instant.Lawful.le_right early) missing
  · refine ⟨[.timerFired id timer.executionTime, .ran work.id work.name agenda.now []] :: firings,
      ?_, .cons ?_ ?_⟩
    · have quiet : reported (inside ++ during) = firings.flatten := by
        rw [reported_append, reported_eq_nil silent, List.nil_append, told]
      rw [List.flatten_cons, ← quiet]
      rfl
    · refine ⟨work, agenda.now, callback, ?_, rfl⟩
      rw [clock]
      exact ⟨arrived, arrived⟩
    · rw [clock] at fired
      apply ((List.forall₂_and_left _ _).mpr ⟨later, fired⟩).imp
      rintro entry events ⟨ordered, firedLater⟩
      exact firedLater.of_later number ordered

end Emptied

/-- A sweep whose callbacks are passive comes to its end, and empties the queue. -/
theorem closes_of_drains [Instant.Lawful τ] {deadline : τ} {agenda : Agenda τ (Callback τ)}
    {queue : List (TimerId × Timer τ (Callback τ))} (drains : Agenda.Drains deadline agenda queue)
    {store : Store τ} (same : store.agenda = agenda)
    (comparable : deadline ≤ deadline → agenda.now ≤ agenda.now)
    (passive : ∀ entry ∈ queue, ∃ work, entry.2.callback = some work ∧ Passive (work.body {}))
    (config : State τ) (op : Op τ) (next : Reply τ → Script (Op τ) (Reply τ)) (count : Nat) :
    ∃ last during,
      machine.Closes op next (.ok (.count (count + queue.length))) config
        (Machine.settle config op next (sweep store deadline count)) last during ∧
      Emptied deadline store last.store queue during := by
  induction drains generalizing store config count with
  | @nil agenda absent =>
      subst same
      have effect : sweep store deadline count =
          answer { store with agenda := store.agenda.arrive deadline } (.ok (.count count)) := by
        rw [sweep, absent]
      rw [effect]
      exact ⟨_, _, Machine.closes_finish rfl, .nil absent comparable⟩
  | @cons agenda fired id timer queue found drains ih =>
      subst same
      obtain ⟨work, callback, script⟩ := passive (id, timer) List.mem_cons_self
      obtain ⟨value, answers⟩ := script.answers (config.runs.count work.id) fired.now
      have comparableLater : deadline ≤ deadline → fired.now ≤ fired.now := by
        intro number
        rw [(Agenda.fireNext?_eq_some found).2.2.2]
        exact Instant.Lawful.le_right (Instant.le_later_left (comparable number) _)
      have passiveLater := fun entry (member : entry ∈ queue) =>
        passive entry (List.mem_cons_of_mem _ member)
      have sorted := (Agenda.Drains.cons found drains).inOrder.sorted
      have later : ∀ entry ∈ queue, timer.executionTime ≤ entry.2.executionTime :=
        fun entry member => (List.rel_of_pairwise_cons sorted member).le
      have rest : ∀ resumed : State τ, resumed.store = { store with agenda := fired } →
          resumed.runs = config.runs.count work.id → ∃ last during,
            machine.Closes op next (.ok (.count (count + 1 + queue.length))) resumed
              (Machine.settle resumed op next (sweep resumed.store deadline (count + 1))) last
              during ∧
            Emptied deadline { store with agenda := fired } last.store queue during := by
        intro resumed kept _
        rw [kept]
        exact ih rfl comparableLater passiveLater resumed (count + 1)
      obtain ⟨last, inside, during, closes, silent, emptied⟩ :=
        closes_firing found callback answers rest
      rw [List.length_cons, Nat.add_comm queue.length, ← Nat.add_assoc]
      exact ⟨last, _, closes, .cons found comparable callback silent later emptied⟩

/-- An advance with passive callbacks is a sorted sweep. It fires the timers that are due at its
deadline, each of them once, in the order of their times and, where these are equal, of their
creation. Each work runs while the clock shows the time of its timer, or the reading at which the
advance began if that is later. In the end the timers that were due have fired and all others are as
they were, the clock shows the deadline unless it was later, and the reply is the number of timers
that fired. A timer that is set for no number is never due, and a deadline that is no number leaves
the agenda as it was. -/
theorem advance_sweeps_queue [Instant.LawfulSums τ] (state : State τ) (delay : τ)
    (next : Reply τ → Script (Op τ) (Reply τ))
    (script : state.script = .step (.advance (.ok delay)) next)
    (passive : ∀ id timer, state.store.agenda.get? id = some timer →
      timer.due (state.store.agenda.now + delay) = true →
      ∃ work, timer.callback = some work ∧ Passive (work.body {})) :
    (∃ queue last during,
      state.store.agenda.Queue (state.store.agenda.now + delay) queue ∧
      machine.Performs (.advance (.ok delay)) (.ok (.count queue.length)) state last during ∧
      Emptied (state.store.agenda.now + delay) state.store last.store queue during) ∧
    ∀ (timer : Timer τ (Callback τ)) deadline, ¬ timer.executionTime ≤ timer.executionTime →
      timer.due deadline = false := by
  constructor
  · obtain ⟨queue, drains⟩ :=
      Agenda.exists_drains state.store.agenda (state.store.agenda.now + delay)
    have inOrder := drains.inOrder
    let begun : State τ :=
      { state with
        trace := state.trace ++ [.began (.advance (.ok delay)) state.stack.length] }
    have stepped : machine.step? state = some (Machine.settle begun (.advance (.ok delay)) next
        (sweep state.store (state.store.agenda.now + delay) 0)) := by
      rw [Machine.step?, script]
      rfl
    have quiet : ∀ entry ∈ queue,
        ∃ work, entry.2.callback = some work ∧ Passive (work.body {}) := by
      rintro ⟨id, timer⟩ member
      obtain ⟨stored, due⟩ := (inOrder.mem id timer).mp member
      exact passive id timer stored due
    obtain ⟨last, during, closes, emptied⟩ := closes_of_drains drains rfl
      Instant.LawfulSums.comparable_of_add quiet begun (.advance (.ok delay)) next 0
    rw [Nat.zero_add] at closes
    refine ⟨queue, last, during, inOrder, ⟨(Machine.Reaches.refl.step stepped).trans closes.reaches,
      ⟨next, script, closes.script⟩, closes.stack, ?_, closes.lasts⟩, emptied⟩
    rw [closes.trace]
    simp [begun]
  · intro timer deadline missing
    cases due : timer.due deadline with
    | false => rfl
    | true => exact absurd (Instant.Lawful.le_left (Agenda.due_iff.mp due).2) missing

/-- A work that looks at the clock. -/
def glancing : Work (Op Float) (Reply Float) where
  id := [2]
  name := "glances"
  body _ := .perform .now

/-- Timers in the order of their creation: one that has been moved to a later time than those after
it, two for the same time, one for no number, one that is cancelled, one that is overdue, and one
that is not due. -/
def crowded : Agenda Float (Callback Float) where
  now := 0
  timers := [
    { executionTime := 2, callback := some (.resting [0]) },
    { executionTime := 1, callback := some glancing },
    { executionTime := 1, callback := some (.resting [0]) },
    { executionTime := 0 / 0, callback := some (.resting [0]) },
    { phase := .cancelled, executionTime := 1, callback := some (.resting [0]) },
    { executionTime := -1, callback := some glancing },
    { executionTime := 9, callback := some (.resting [0]) }]

/-- The entries of those that are due in two seconds, in their order. -/
def crowdedQueue : List (TimerId × Timer Float (Callback Float)) := [
  (5, { executionTime := -1, callback := some glancing }),
  (1, { executionTime := 1, callback := some glancing }),
  (2, { executionTime := 1, callback := some (.resting [0]) }),
  (0, { executionTime := 2, callback := some (.resting [0]) })]

theorem queue_crowded : crowded.Queue (0 + 2) crowdedQueue := by
  have never : crowded.timers[3].due (0 + 2) = false := by decide +kernel
  have cancelled : crowded.timers[4].due (0 + 2) = false := by decide +kernel
  have late : crowded.timers[6].due (0 + 2) = false := by decide +kernel
  constructor
  · intro id timer
    constructor
    · intro member
      simp only [crowdedQueue, List.mem_cons, Prod.mk.injEq, List.not_mem_nil, or_false] at member
      rcases member with ⟨rfl, rfl⟩ | ⟨rfl, rfl⟩ | ⟨rfl, rfl⟩ | ⟨rfl, rfl⟩ <;>
        exact ⟨rfl, by decide +kernel⟩
    · rintro ⟨stored, due⟩
      obtain ⟨below, rfl⟩ := List.getElem?_eq_some_iff.mp stored
      have places : id < 7 := below
      interval_cases id
      · simp [crowded, crowdedQueue]
      · simp [crowded, crowdedQueue]
      · simp [crowded, crowdedQueue]
      · cases never.symm.trans due
      · cases cancelled.symm.trans due
      · simp [crowded, crowdedQueue]
      · cases late.symm.trans due
  · simp only [crowdedQueue, List.pairwise_cons, List.forall_mem_cons]
    exact ⟨⟨by decide +kernel, by decide +kernel, by decide +kernel, by simp⟩,
      ⟨by decide +kernel, by decide +kernel, by simp⟩, ⟨by decide +kernel, by simp⟩, by simp, .nil⟩

theorem passive_resting (id : WorkId) :
    Passive ((Work.resting id).body {} : Script (Op Float) (Reply Float)) := .done _

theorem passive_glancing : Passive (glancing.body {}) := .now fun _ => .done _

/-- Of the timers that are due in two seconds the overdue one fires first, then the two for the same
time in the order of their creation, then the one that was created before them. -/
theorem advance_sweeps_queue_of_crowded :
    let state : State Float :=
      { store := { agenda := crowded }, script := .perform (.advance (.ok 2)) }
    ∃ queue last during, queue.map Prod.fst = [5, 1, 2, 0] ∧
      machine.Performs (.advance (.ok 2)) (.ok (.count 4)) state last during ∧
      Emptied (0 + 2) state.store last.store queue during := by
  intro state
  have passive : ∀ timer ∈ crowded.timers, ∃ work, timer.callback = some work ∧
      Passive (work.body {}) := by
    simp only [crowded, List.forall_mem_cons]
    exact ⟨⟨_, rfl, passive_resting _⟩, ⟨_, rfl, passive_glancing⟩, ⟨_, rfl, passive_resting _⟩,
      ⟨_, rfl, passive_resting _⟩, ⟨_, rfl, passive_resting _⟩, ⟨_, rfl, passive_glancing⟩,
      ⟨_, rfl, passive_resting _⟩, by simp⟩
  obtain ⟨queue, last, during, inOrder, performs, emptied⟩ :=
    (advance_sweeps_queue state 2 .done rfl fun id timer stored _ =>
      passive timer (List.mem_of_getElem? stored)).1
  obtain rfl := queue_crowded.unique inOrder
  exact ⟨crowdedQueue, last, during, rfl, performs, emptied⟩

end TimerSession

end Debounce
