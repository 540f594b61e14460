import Debounce.Proofs.Closing
import Debounce.Proofs.Spacing
import Mathlib.Data.Rat.Floor

/-!
# Works that set the timer again

A work that calls its debouncer sets the next timer while the advance that runs it is still on its
way, so nothing in the loop over the timers that are due says that it ends. It ends because a
debouncer keeps its pace: whatever the work requests, the next timer is set for no sooner than the
least spacing after the one that fired. An advance therefore fires about as many timers as there are
least spacings in it. Seconds are exact here.
-/

namespace Debounce

/-- A timer fires. -/
def Event.fires {τ : Type} : Event τ → Bool
  | .timerFired _ _ => true
  | _ => false

section Firings

variable {Op R τ : Type}

/-- A timer fires at the moment. -/
def Moment.fires : Moment Op R (Event τ) → Bool
  | .event told => told.fires
  | .began _ _ | .ended _ _ _ => false

/-- How many timers have fired. -/
def firings (history : List (Moment Op R (Event τ))) : Nat := history.countP Moment.fires

theorem firings_append (history moments : List (Moment Op R (Event τ))) :
    firings (history ++ moments) = firings history + firings moments :=
  List.countP_append

theorem firings_moments {Store Frame : Type} (effect : Effect Op R Store Frame (Event τ)) (op : Op)
    (depth : Nat) : firings (effect.moments op depth) = effect.events.countP Event.fires := by
  have events : firings (effect.events.map (Moment.event : Event τ → Moment Op R (Event τ))) =
      effect.events.countP Event.fires := List.countP_map
  rw [Effect.moments, firings_append, events]
  cases effect.next <;> rfl

end Firings

namespace Debouncer

variable {τ κ ω : Type} [Instant τ] {settings : Settings} {interval : Interval}
variable {debouncer : Debouncer τ ω} {agenda : Agenda τ κ}

/-- A debouncer on the trailing edge that holds no timer keeps its pace after an execution. -/
theorem Paced.of_timer_eq_none (policy : debouncer.settings = settings)
    (edge : settings.leading = false) (coherent : debouncer.Coherent agenda)
    (free : debouncer.timer = none) (comparable : agenda.now ≤ agenda.now) :
    debouncer.Paced settings interval agenda [agenda.now] where
  settings := policy
  coherent := coherent
  spaced := ⟨comparable, by simpa using comparable, List.pairwise_singleton _ _⟩
  after := by simp [policy, edge, free]
  due := by
    intro id time stamp awaits
    cases free.symm.trans awaits.timer

end Debouncer

namespace DebouncerSession

/-- The operation looks at the session and changes nothing. -/
def Op.looks {τ : Type} : Op τ → Bool
  | .now | .policy | .text => true
  | .request _ | .advance _ => false

/-- A script that returns, and on its way calls and resets the debouncer as often as it likes. The
works that it supplies do the same. -/
inductive Recalling {τ : Type} : Script (Op τ) (Reply τ) → Prop where
  | done (value : Answer τ) : Recalling (.done (.ok value))
  | runs (work : WorkId) {next : Nat → Script (Op τ) (Reply τ)} :
      (∀ count, Recalling (next count)) → Recalling (.runs work next)
  | look {op : Op τ} {next : Reply τ → Script (Op τ) (Reply τ)} :
      op.looks = true → (∀ reply, Recalling (next reply)) → Recalling (.step op next)
  | call {work? : Option (Work (Op τ) (Reply τ))} {next : Reply τ → Script (Op τ) (Reply τ)} :
      (∀ work, work? = some work → Recalling (work.body {})) → Recalling (next (.ok .nothing)) →
      Recalling (.step (.request (.call work?)) next)
  | reset {next : Reply τ → Script (Op τ) (Reply τ)} :
      (∀ dropped, Recalling (next (.ok (.flag dropped)))) →
      Recalling (.step (.request .reset) next)

/-- What holds while the work of a timer runs that has fired at the given instant: the debouncer
keeps its pace, no time has passed, and the work that is held is of the same kind. -/
structure Rearmed (settings : Settings) (interval : Interval) (instant : Rat) (store : Store Rat) :
    Prop where
  paced : store.debouncer.Paced settings interval store.agenda [instant]
  now : store.agenda.now = instant
  held : ∃ work, store.debouncer.work = some work ∧ Recalling (work.body {})

/-- The operation is over at once, with the given reply, and no timer fires in it. -/
structure Outcome.Settles (outcome : Outcome Rat) (reply : Reply Rat) : Prop where
  next : outcome.next = .finish reply
  silent : outcome.events.countP Event.fires = 0

/-- The script comes to its end without a timer firing, and the debouncer keeps its pace. -/
def RunsOut (settings : Settings) (interval : Interval) (instant : Rat) (config : State Rat) : Prop :=
  ∃ value ended inside, machine.Returns (.ok value) config ended inside ∧ firings inside = 0 ∧
    Rearmed settings interval instant ended.store

section Works

variable {settings : Settings} {interval : Interval} {instant : Rat} {store : Store Rat}
variable (bounds : settings.interval = some interval) (inRange : settings.InRange)
variable (edge : settings.leading = false) (spacing : (0 : Rat) < interval.begin.seconds)

/-- A timer that is held belongs to a period that has begun since. -/
theorem Rearmed.le_stamp {id : TimerId} {time stamp : Rat}
    (rearmed : Rearmed settings interval instant store)
    (awaits : store.debouncer.Awaits store.agenda id time stamp) : instant ≤ stamp := by
  rcases rearmed.paced.after (.inr (by simp [awaits.timer])) with ⟨begun, stamped, before⟩
  obtain rfl := Option.some.inj (awaits.stamped.symm.trans stamped)
  exact before instant (by simp)

/-- The next timer fires when the least spacing has passed. -/
theorem Rearmed.spacing_le {deadline : Rat} {id : TimerId} {timer : Timer Rat Unit}
    {agenda : Agenda Rat Unit} (rearmed : Rearmed settings interval instant store)
    (found : store.agenda.fireNext? deadline = some (id, timer, agenda)) :
    instant + interval.begin.seconds ≤ timer.executionTime ∧ timer.executionTime ≤ agenda.now := by
  rcases rearmed.paced.coherent.timer_of_fireNext? found with ⟨held, _⟩
  rcases rearmed.paced.coherent.awaits held with ⟨time, stamp, awaits⟩
  rcases Agenda.fireNext?_eq_some found with ⟨stored, _, _, rfl⟩
  rcases Agenda.status?_eq_some.mp awaits.status with ⟨waiting, same, _, rfl⟩
  obtain rfl := Option.some.inj (stored.symm.trans same)
  have begun := rearmed.le_stamp awaits
  have late := (rearmed.paced.due _ _ _ awaits).2
  have reached := Instant.le_later_right (Rat.le_refl : store.agenda.now ≤ _)
    (Rat.le_refl : timer.executionTime ≤ _)
  exact ⟨by grind, reached⟩

include bounds inRange edge spacing

/-- A call of the work sets a timer or moves it, but executes nothing: the period has only begun. -/
theorem Rearmed.call (rearmed : Rearmed settings interval instant store)
    {work? : Option (Work (Op Rat) (Reply Rat))}
    (recalls : ∀ work, work? = some work → Recalling (work.body {})) :
    (start (.request (.call work?)) store).Settles (.ok .nothing) ∧
      Rearmed settings interval instant (start (.request (.call work?)) store).store := by
  have form := Debouncer.served_serve store.debouncer store.agenda () (.call work?)
  rw [start]
  generalize store.debouncer.serve store.agenda () (.call work?) = turn at form
  have paced := rearmed.paced.served bounds inRange form
  have held : ∃ work, turn.debouncer.work = some work ∧ Recalling (work.body {}) := by
    rw [form.work]
    cases work? with
    | none => exact rearmed.held
    | some work => exact ⟨work, rfl, recalls work rfl⟩
  have left (unstarted : turn.starts = []) :
      Rearmed settings interval instant ⟨turn.scheduler, turn.debouncer⟩ := by
    rw [unstarted, List.append_nil] at paced
    exact ⟨paced, form.now.trans rearmed.now, held⟩
  cases form with
  | refusedCall absent =>
      rcases rearmed.held with ⟨work, supplied, _⟩
      cases absent.symm.trans supplied
  | passedOn _ through => simp [Settings.passthrough, rearmed.paced.settings, bounds] at through
  | leading _ _ leads _ => simp [rearmed.paced.settings, edge] at leads
  | trailing _ _ _ call =>
      cases call with
      | opened _ => exact ⟨⟨rfl, rfl⟩, left rfl⟩
      | overdue awaits come _ =>
          have late := (rearmed.paced.rebind _).overdue bounds (inRange.begin interval bounds) awaits
            come
          have begun := rearmed.le_stamp ⟨awaits.timer, awaits.status, awaits.stamped⟩
          have now := rearmed.now
          grind
      | overtaken awaits _ refused =>
          have cancels := rearmed.paced.coherent.cancels awaits.timer
          cases refused.symm.trans cancels
      | moved _ _ _ => exact ⟨⟨rfl, rfl⟩, left rfl⟩
      | kept _ _ _ => exact ⟨⟨rfl, rfl⟩, left rfl⟩

omit bounds inRange spacing in
/-- A reset of the work drops the timer. -/
theorem Rearmed.reset (rearmed : Rearmed settings interval instant store) :
    (∃ dropped, (start (.request .reset) store).Settles (.ok (.flag dropped))) ∧
      Rearmed settings interval instant (start (.request .reset) store).store := by
  let turn := store.debouncer.reset store.agenda
  have form := Debouncer.served_serve store.debouncer store.agenda () .reset
  have now : turn.scheduler.now = instant := form.now.trans rearmed.now
  have free : turn.debouncer.timer = none := by simp [turn, Debouncer.reset]
  have paced : turn.debouncer.Paced settings interval turn.scheduler [instant] := by
    rw [← now]
    exact .of_timer_eq_none (form.settings.trans rearmed.paced.settings) edge
      (rearmed.paced.coherent.served form) free Rat.le_refl
  refine ⟨⟨_, rfl, ?_⟩, paced, now, ?_⟩
  · apply List.countP_eq_zero.mpr
    intro event member
    have reported : event ∈ turn.events := member
    simp only [turn, Debouncer.reset, List.mem_ite_nil_right, List.mem_singleton] at reported
    simp [reported.2, Event.fires]
  · rcases rearmed.held with ⟨work, supplied, recalls⟩
    exact ⟨work, form.work.trans supplied, recalls⟩

omit bounds inRange edge spacing in
/-- An operation that is over at once is followed by the rest of the script. -/
theorem runsOut_start {op : Op Rat} {next : Reply Rat → Script (Op Rat) (Reply Rat)}
    {answer : Reply Rat} {config : State Rat} (script : config.script = .step op next)
    (atOnce : (start op config.store).Settles answer)
    (rest : ∀ trace, RunsOut settings interval instant
      { config with
        store := (start op config.store).store, script := next answer, trace := trace }) :
    RunsOut settings interval instant config := by
  obtain ⟨value, ended, inside, returns, quiet, left⟩ := rest _
  refine ⟨value, ended, _, .start script atOnce.next returns, ?_, left⟩
  have own : firings ((start op config.store).moments op config.stack.length) = 0 :=
    (firings_moments _ _ _).trans atOnce.silent
  rw [← List.singleton_append, firings_append, firings_append, quiet]
  exact (Nat.zero_add _).trans own

/-- The work comes to its end, and no timer fires while it runs. -/
theorem Recalling.runsOut {script : Script (Op Rat) (Reply Rat)} (recalling : Recalling script)
    (config : State Rat) (runs : config.script = script)
    (rearmed : Rearmed settings interval instant config.store) :
    RunsOut settings interval instant config := by
  induction recalling generalizing config with
  | done value => exact ⟨value, config, [], Machine.returns_done runs, rfl, rearmed⟩
  | @runs work next _ ih =>
      let asked : State Rat := { config with script := next (config.runs work) }
      obtain ⟨value, ended, inside, returns, quiet, left⟩ := ih (config.runs work) asked rfl rearmed
      exact ⟨value, ended, inside, returns.ask runs, quiet, left⟩
  | @look op next looks _ ih =>
      cases op with
      | now | policy | text => exact runsOut_start runs ⟨rfl, rfl⟩ fun _ => ih _ _ rfl rearmed
      | request | advance => cases looks
  | call recalls _ _ ih =>
      obtain ⟨atOnce, left⟩ := rearmed.call bounds inRange edge spacing recalls
      exact runsOut_start runs atOnce fun _ => ih _ rfl left
  | reset _ ih =>
      obtain ⟨⟨dropped, atOnce⟩, left⟩ := rearmed.reset edge
      exact runsOut_start runs atOnce fun _ => ih dropped _ rfl left

end Works

/-! ## Advances -/

section Advances

variable {settings : Settings} {interval : Interval} {deadline : Rat}

/-- What happens when a timer fires whose debouncer holds a work. -/
def fired (store : Store Rat) (agenda : Agenda Rat Unit) (id : TimerId) (timer : Timer Rat Unit)
    (work : Work (Op Rat) (Reply Rat)) (frame : Frame Rat) : Outcome Rat where
  store := { agenda := agenda, debouncer := { store.debouncer with timer := none } }
  events := [.timerFired id timer.executionTime, .executed store.debouncer.name (.timer id),
    .ran work.id work.name agenda.now []]
  next := .enter frame work {}

theorem take_firing {store : Store Rat} {id : TimerId} {work : Work (Op Rat) (Reply Rat)}
    (held : store.debouncer.timer = some id) (supplied : store.debouncer.work = some work)
    (agenda : Agenda Rat Unit) (timer : Timer Rat Unit) (frame : Frame Rat) :
    take (store.firing agenda id timer) (fun _ => frame) =
      fired store agenda id timer work frame := by
  simp [take, Turn.effect, Store.firing, Debouncer.fire, Debouncer.execute, held, supplied, fired]

/-- From a sweep on, the advance gets to its end, and fires no more timers than the given number
beside those that have fired before. -/
def Ceases (deadline : Rat) (limit : Nat) (op : Op Rat)
    (next : Reply Rat → Script (Op Rat) (Reply Rat)) (around : State Rat) (store : Store Rat)
    (count : Nat) : Prop :=
  ∃ last during fired, fired ≤ limit ∧ firings during = fired ∧
    machine.Closes op next (.ok (.count (count + fired))) around
      (Machine.settle around op next (sweep store deadline count)) last during

variable {op : Op Rat} {next : Reply Rat → Script (Op Rat) (Reply Rat)} {store : Store Rat}

/-- Where no timer is due the advance ends. -/
theorem ceases_of_none (absent : store.agenda.fireNext? deadline = none) (limit : Nat)
    (around : State Rat) (count : Nat) : Ceases deadline limit op next around store count := by
  have arrives : (sweep store deadline count).next = .finish (.ok (.count (count + 0))) := by
    rw [sweep, absent]
    rfl
  refine ⟨_, _, 0, Nat.zero_le _, ?_, Machine.closes_finish arrives⟩
  rw [sweep, absent]
  rfl

variable (bounds : settings.interval = some interval) (inRange : settings.InRange)
variable (edge : settings.leading = false) (spacing : (0 : Rat) < interval.begin.seconds)

include bounds inRange edge spacing

/-- A timer fires, and its work comes to its end, so the advance ends if the rest of it does. -/
theorem ceases_of_fireNext? {id : TimerId} {timer : Timer Rat Unit} {agenda : Agenda Rat Unit}
    (found : store.agenda.fireNext? deadline = some (id, timer, agenda))
    (coherent : store.debouncer.Coherent store.agenda)
    (policy : store.debouncer.settings = settings)
    (recalls : ∀ work, store.debouncer.work = some work → Recalling (work.body {}))
    (limit : Nat) (around : State Rat) (count : Nat)
    (rest : ∀ resumed : State Rat, Rearmed settings interval agenda.now resumed.store →
      Ceases deadline limit op next resumed resumed.store (count + 1)) :
    Ceases deadline (limit + 1) op next around store count := by
  rcases coherent.timer_of_fireNext? found with ⟨held, holds⟩
  obtain ⟨work, supplied⟩ := Option.isSome_iff_exists.mp (coherent.supplied (by simp [held]))
  let effect := fired store agenda id timer work (.advancing deadline (count + 1))
  have fires : sweep store deadline count = effect := by
    rw [sweep, found]
    exact take_firing held supplied agenda timer _
  let entered := Machine.settle around op next effect
  have rearmed : Rearmed settings interval agenda.now entered.store := by
    rw [Machine.settle_store]
    exact ⟨.of_timer_eq_none policy edge (.of_timer_eq_none rfl holds) rfl Rat.le_refl, rfl, work,
      supplied, recalls work supplied⟩
  obtain ⟨value, ended, inside, returns, quiet, remains⟩ :=
    (recalls work supplied).runsOut bounds inRange edge spacing entered rfl rearmed
  obtain ⟨last, during, more, fewer, counted, closes⟩ :=
    rest { ended with stack := around.stack } remains
  refine ⟨last, effect.events.map Moment.event ++ (inside ++ during), more + 1,
    Nat.succ_le_succ fewer, ?_, ?_⟩
  · have own : firings (effect.events.map
        (Moment.event : Event Rat → Moment (Op Rat) (Reply Rat) (Event Rat))) = 1 := rfl
    rw [firings_append, firings_append, own, quiet, counted, Nat.zero_add, Nat.add_comm]
  · rw [fires, Nat.add_comm more, ← Nat.add_assoc]
    exact .enter rfl returns closes

/-- In what is left of an advance after a timer has fired no more timers fire than least spacings fit
in. -/
theorem Rearmed.ceases (limit : Nat) {instant : Rat} (around : State Rat) (count : Nat)
    (rearmed : Rearmed settings interval instant around.store)
    (enough : deadline < instant + (limit + 1) * interval.begin.seconds) :
    Ceases deadline limit op next around around.store count := by
  induction limit generalizing instant around count with
  | zero =>
      cases found : around.store.agenda.fireNext? deadline with
      | none => exact ceases_of_none found _ around count
      | some next =>
          rcases next with ⟨id, timer, agenda⟩
          have due := (Agenda.fireNext?_eq_some found).2.2.1
          have late := (rearmed.spacing_le found).1
          grind
  | succ limit ih =>
      cases found : around.store.agenda.fireNext? deadline with
      | none => exact ceases_of_none found _ around count
      | some next =>
          rcases next with ⟨id, timer, agenda⟩
          rcases rearmed.held with ⟨work, supplied, recalls⟩
          have held : ∀ other, around.store.debouncer.work = some other →
              Recalling (other.body {}) := by
            intro other same
            obtain rfl := Option.some.inj (supplied.symm.trans same)
            exact recalls
          rcases rearmed.spacing_le found with ⟨late, reached⟩
          apply ceases_of_fireNext? bounds inRange edge spacing found rearmed.paced.coherent
            rearmed.paced.settings held
          intro resumed after
          apply ih resumed (count + 1) after
          push_cast at enough
          grind

end Advances

/-- An advance ends although works set the timer again. On the trailing edge with a least spacing,
suppose that the work that is held when an advance begins returns, after it has called and reset the
debouncer as often as it likes. Then the advance comes to its end. It replies the number of timers
that it has fired, and there are no more of them than least spacings begin in it, counting one for
its first instant. The end of the interval and the idle time do not matter. -/
theorem advance_ends (settings : Settings) (interval : Interval) (name : Value) (clock delay : Rat)
    (script : Script (Op Rat) (Reply Rat)) (state : State Rat)
    (next : Reply Rat → Script (Op Rat) (Reply Rat))
    (bounds : settings.interval = some interval) (inRange : settings.InRange)
    (edge : settings.leading = false) (spacing : (0 : Rat) < interval.begin.seconds)
    (reaches : machine.Reaches (State.initial settings name clock script) state)
    (advances : state.script = .step (.advance (.ok delay)) next) (ahead : 0 ≤ delay)
    (recalls : ∀ work, state.store.debouncer.work = some work → Recalling (work.body {})) :
    ∃ last during fired,
      machine.Performs (.advance (.ok delay)) (.ok (.count fired)) state last during ∧
      firings during = fired ∧ (fired : Int) ≤ ⌊delay / interval.begin.seconds⌋ + 1 := by
  have coherent := coherent_of_reaches reaches
  have policy := settings_of_reaches reaches
  let deadline := state.store.agenda.now + delay
  let begun : State Rat :=
    { state with trace := state.trace ++ [.began (.advance (.ok delay)) state.stack.length] }
  obtain ⟨limit, spacings⟩ : ∃ limit : Nat, (limit : Int) = ⌊delay / interval.begin.seconds⌋ :=
    ⟨_, Int.toNat_of_nonneg (Int.floor_nonneg.mpr (div_nonneg ahead spacing.le))⟩
  have enough : delay < (limit + 1) * interval.begin.seconds := by
    have fits := Int.lt_floor_add_one (delay / (interval.begin.seconds : Rat))
    rw [div_lt_iff₀ spacing, ← spacings] at fits
    exact_mod_cast fits
  have ceases : Ceases deadline (limit + 1) (.advance (.ok delay)) next begun state.store 0 := by
    cases found : state.store.agenda.fireNext? deadline with
    | none => exact ceases_of_none found _ begun 0
    | some first =>
        rcases first with ⟨id, timer, agenda⟩
        have moved : state.store.agenda.now ≤ agenda.now := by
          rw [(Agenda.fireNext?_eq_some found).2.2.2]
          exact Instant.le_later_left Rat.le_refl _
        apply ceases_of_fireNext? bounds inRange edge spacing found coherent policy recalls
        intro resumed rearmed
        apply rearmed.ceases bounds inRange edge spacing limit resumed 1
        grind
  obtain ⟨last, during, fired, fewer, counted, closes⟩ := ceases
  rw [Nat.zero_add] at closes
  refine ⟨last, during, fired, closes.performs advances, counted, ?_⟩
  rw [← spacings]
  exact_mod_cast fewer

/-- A work that calls its debouncer twice, and resets it in between. -/
def rearming : Work (Op Rat) (Reply Rat) where
  id := [0]
  name := "rearming"
  body _ :=
    .step (.request (.call none)) fun _ => .step (.request .reset) fun _ =>
      .step (.request (.call none)) fun _ => .done (.ok .nothing)

theorem recalling_rearming : Recalling (rearming.body {}) :=
  .call (by simp) (.reset fun _ => .call (by simp) (.done _))

/-- The work of a call at zero runs at five, at ten and at fifteen, and sets the timer each time. An
advance of seventeen seconds fires four timers at most. -/
theorem advance_ends_of_rearming :
    let first := State.initial fiveSeconds .null (0 : Rat)
      (.before [.request (.call (some rearming))] (.perform (.advance (.ok 17))))
    let state := machine.run 1 first
    fiveSeconds.InRange ∧ machine.Reaches first state ∧
      starts (machine.run 40 state).trace = [5, 10, 15] ∧
      ∃ last during fired,
        machine.Performs (.advance (.ok 17)) (.ok (.count fired)) state last during ∧
        firings during = fired ∧ fired ≤ 4 := by
  intro first state
  have reaches := Machine.reaches_run machine 1 first
  have inRange : fiveSeconds.InRange := by
    constructor
    · rintro _ ⟨⟩
      decide
    · rintro _ _ ⟨⟩ ⟨⟩
    · rintro _ ⟨⟩
  have recalls : ∀ work, state.store.debouncer.work = some work → Recalling (work.body {}) := by
    intro work supplied
    obtain rfl : rearming = work := Option.some.inj supplied
    exact recalling_rearming
  have spacings : ⌊(17 : Rat) / (Duration.ofSeconds 5).seconds⌋ = 3 := by decide +kernel
  obtain ⟨last, during, fired, performs, counted, fewer⟩ :=
    advance_ends fiveSeconds _ .null 0 17 _ state .done rfl inRange rfl (by decide +kernel) reaches
      rfl (by decide +kernel) recalls
  refine ⟨inRange, reaches, by decide +kernel, last, during, fired, performs, counted, ?_⟩
  have most : (fired : Int) ≤ 3 + 1 := spacings ▸ fewer
  exact_mod_cast most

end DebouncerSession

end Debounce
