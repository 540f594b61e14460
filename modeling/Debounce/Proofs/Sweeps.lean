import Debounce.Proofs.Asides

/-!
# Advances of a registry

An advance fires the timers of all keys that are due, in the order of their times. For the debouncer
under one key this amounts to very little: its timer fires if it is due, when the clock shows the
time it is set for or was later already, and in the end the clock stands at the deadline. Which
other timers fire on the way makes no difference.
-/

namespace Debounce

theorem Agenda.pendingCount_claim {τ κ : Type} {agenda : Agenda τ κ} {id : TimerId}
    {timer : Timer τ κ} (stored : agenda.get? id = some timer) (active : timer.active = true) :
    (agenda.claim id).2.pendingCount < agenda.pendingCount := by
  rcases List.getElem?_eq_some_iff.mp stored with ⟨below, rfl⟩
  have counts : 0 < agenda.timers.countP Timer.active :=
    List.countP_pos_iff.mpr ⟨_, List.getElem_mem below, active⟩
  simp only [claim, update, List.getElem?_eq_getElem below, pendingCount, List.countP_set below,
    active, Timer.active_claim, if_true]
  exact Nat.sub_lt counts Nat.one_pos

namespace RegistrySession

variable {τ : Type} {counted : Set WorkId} {key : Value}

variable [Instant τ]

/-- What an advance does to the debouncer under the key. -/
inductive Swept (counted : Set WorkId) (key : Value) (deadline : τ) (store : Store τ) (runs : Runs)
    (ending : Ending τ (Store τ) (Notice τ)) : Prop where
  /-- Its timer is not due. -/
  | spared :
      Aside counted key store runs ending.store ending.runs →
      (∀ id debouncer time, store.registry.find? key = some id →
        store.registry.debouncer? id = some debouncer →
        debouncer.time? store.agenda = some time → ¬ time ≤ deadline) →
      executions (store.registry.find? key) ending.events = [] →
      Swept counted key deadline store runs ending
  /-- Its timer fires. -/
  | fired {id : DebouncerId} {debouncer : Member τ} {work : Work (Op τ) (Reply τ)} {time : τ} :
      store.registry.find? key = some id → store.registry.debouncer? id = some debouncer →
      debouncer.work = some work → debouncer.time? store.agenda = some time → time ≤ deadline →
      ending.store.registry.find? key = some id →
      ending.store.registry.debouncer? id = some { debouncer with timer := none } →
      (∀ counts ∈ counted, ending.runs counts = runs.count work.id counts) →
      executions (some id) ending.events =
        [⟨work.id, work.name, Instant.later store.agenda.now time⟩] →
      Swept counted key deadline store runs ending

/-- How an advance ends. -/
structure Sweeps (counted : Set WorkId) (key : Value) (deadline : τ) (fired : Nat) (store : Store τ)
    (runs : Runs) (ending : Ending τ (Store τ) (Notice τ)) : Prop where
  ends : Ends (sweep store deadline fired) runs ending
  replies : ∃ count, ending.reply = .ok (.count count)
  quiet : ending.store.Quiet counted key
  now : ending.store.agenda.now = Instant.later store.agenda.now deadline
  swept : Swept counted key deadline store runs ending

/-- The store with a debouncer whose timer has fired. -/
abbrev Store.spent (store : Store τ) (id : DebouncerId) (debouncer : Member τ)
    (agenda : Agenda τ DebouncerId) : Store τ :=
  store.put id { debouncer with timer := none } agenda

/-- What happens when the next timer fires. -/
structure Fires (counted : Set WorkId) (key : Value) (deadline : τ) (fired : Nat) (store : Store τ)
    (runs : Runs) (timer : Timer τ DebouncerId) (agenda : Agenda τ DebouncerId)
    (debouncer : Member τ) (quiet : QuietWork τ) (notices : List (Notice τ)) : Prop where
  made : store.registry.debouncer? timer.callback = some debouncer
  work : debouncer.work = some quiet.returning
  time : debouncer.time? store.agenda = some timer.executionTime
  uncounted : store.registry.find? key ≠ some timer.callback → quiet.id ∉ counted
  left : (store.spent timer.callback debouncer agenda).Quiet counted key
  others : ∀ notice ∈ notices, notice.debouncer = timer.callback
  executes : executions (some timer.callback) notices =
    [⟨quiet.id, quiet.name, Instant.later store.agenda.now timer.executionTime⟩]
  goesOn : ∀ rest,
    Ends (sweep (store.spent timer.callback debouncer agenda) deadline (fired + 1))
      (runs.count quiet.id) rest →
    Ends (sweep store deadline fired) runs { rest with events := notices ++ rest.events }

section Fires

variable {deadline : τ} {store : Store τ} {place : TimerId} {timer : Timer τ DebouncerId}
variable {agenda : Agenda τ DebouncerId}

theorem Store.Quiet.fires (quiet : store.Quiet counted key)
    (next : store.agenda.fireNext? deadline = some (place, timer, agenda)) (fired : Nat)
    (runs : Runs) :
    ∃ debouncer work notices,
      Fires counted key deadline fired store runs timer agenda debouncer work notices := by
  rcases Agenda.fireNext?_eq_some next with ⟨stored, active, _, claimed⟩
  rcases quiet.toCoherent.timer_of_fireNext? next with ⟨member, debouncer, made, held⟩
  obtain ⟨work, supplied⟩ := Option.isSome_iff_exists.mp
    ((quiet.minds _ _ made).supplied (by simp [held]))
  rcases quiet.fits _ member debouncer work made supplied with ⟨work, rfl, _, uncounted⟩
  let turn := debouncer.fire agenda place
  have left : turn.debouncer = { debouncer with timer := none } := by
    simp [turn, Debouncer.fire, Debouncer.execute, held]
  have has : turn.debouncer.work = some work.returning := by
    rw [left]
    exact supplied
  have asks : turn.demand = .execute .passOn := rfl
  let outcome := take store timer.callback turn (fun _ => .advancing deadline (fired + 1))
    [.timerFired place timer.executionTime]
  have fires : sweep store deadline fired = outcome := by
    simp only [sweep, next, made]
    rfl
  have coherent := quiet.toCoherent.fire next made held
  rw [left] at coherent
  have clock : turn.scheduler.now = Instant.later store.agenda.now timer.executionTime := by
    simp only [turn, Debouncer.fire_scheduler, claimed]
  refine ⟨debouncer, work, outcome.events, ?_⟩
  exact {
    made := made
    work := supplied
    time := by
      have pending := Agenda.pending?_eq_some.mpr ⟨stored, active⟩
      rw [Debouncer.time?, held, Option.bind_some, pending]
      rfl
    uncounted := uncounted
    left := quiet.put member coherent (claimed ▸ (quiet.summed.claim place).of_timers rfl)
      fun other kept => quiet.fits _ member debouncer other made kept
    others := fun _ => debouncer_of_mem_take store timer.callback turn _ _
    executes := by
      have silent : ∀ event ∈ [Event.timerFired place timer.executionTime] ++ turn.events,
          event.work? = none := by
        simp [turn, Debouncer.fire, Debouncer.execute, Event.work?]
      simp only [outcome, take_of_execute asks has, executions_append, executions_of_silent silent]
      simp [executions, execution?, Work.returning, clock]
    goesOn := by
      intro rest ends
      have enters : outcome.next = .enter (.advancing deadline (fired + 1)) work.returning {} := by
        simp only [outcome, take_of_execute asks has]
      rw [fires]
      apply ends_enter enters
      have same : outcome.store =
          store.spent timer.callback debouncer agenda := by
        simp only [outcome, take_store, left]
        rfl
      rw [same]
      exact ends }

/-- Where no timer is due the clock arrives at the deadline. -/
theorem Store.Quiet.sweeps_of_none (quiet : store.Quiet counted key)
    (absent : store.agenda.fireNext? deadline = none) (fired : Nat) (runs : Runs) :
    Sweeps counted key deadline fired store runs
      { reply := .ok (.count fired)
        store := { store with agenda := store.agenda.arrive deadline }
        runs := runs } where
  ends := by
    rw [sweep, absent]
    exact .finish rfl
  replies := ⟨fired, rfl⟩
  quiet := quiet.of_timers rfl
  now := rfl
  swept := by
    refine .spared ⟨rfl, fun _ _ => rfl, fun _ _ _ _ => rfl, fun _ _ => rfl⟩ ?_ rfl
    intro id debouncer time _ made timed due
    rcases (quiet.minds id debouncer made).awaits_of_time? timed with ⟨place, stamp, awaits⟩
    rcases Agenda.status?_eq_some.mp awaits.status with ⟨timer, stored, active, rfl⟩
    exact Agenda.fireNext?_ne_none stored active due absent

/-- The timer of the key fires, and nothing happens to its debouncer in the rest of the advance. -/
theorem Fires.swept_own {fired : Nat} {runs : Runs} {debouncer : Member τ} {work : QuietWork τ}
    {notices : List (Notice τ)} {rest : Ending τ (Store τ) (Notice τ)}
    (fires : Fires counted key deadline fired store runs timer agenda debouncer work notices)
    (due : timer.executionTime ≤ deadline)
    (own : store.registry.find? key = some timer.callback)
    (swept : Swept counted key deadline (store.spent timer.callback debouncer agenda)
      (runs.count work.id) rest) :
    Swept counted key deadline store runs { rest with events := notices ++ rest.events } := by
  have left : (store.spent timer.callback debouncer agenda).registry.debouncer? timer.callback =
      some { debouncer with timer := none } := by
    have known := Registry.known_of_debouncer? fires.made
    rw [Store.spent, Store.put, Registry.debouncer?_set _ known, if_pos rfl]
  cases swept with
  | spared aside _ silent =>
      refine .fired own fires.made fires.work fires.time due (aside.found.trans own)
        ((aside.member _ own).trans left) aside.counts ?_
      have heard : executions (some timer.callback) rest.events = [] := own ▸ silent
      rw [executions_append, fires.executes, heard]
      rfl
  | fired holder made _ timed _ _ _ _ _ =>
      obtain rfl := Option.some.inj (own.symm.trans holder)
      obtain rfl := Option.some.inj (left.symm.trans made)
      cases timed

/-- Another timer fires first, which makes no difference. -/
theorem Fires.swept_other [Instant.LawfulTies τ] {fired : Nat} {runs : Runs} {debouncer : Member τ}
    {work : QuietWork τ} {notices : List (Notice τ)} {rest : Ending τ (Store τ) (Notice τ)}
    (fires : Fires counted key deadline fired store runs timer agenda debouncer work notices)
    (quiet : store.Quiet counted key)
    (next : store.agenda.fireNext? deadline = some (place, timer, agenda))
    (other : store.registry.find? key ≠ some timer.callback)
    (swept : Swept counted key deadline (store.spent timer.callback debouncer agenda)
      (runs.count work.id) rest) :
    Swept counted key deadline store runs { rest with events := notices ++ rest.events } := by
  rcases Agenda.fireNext?_eq_some next with ⟨stored, active, _, claimed⟩
  have unheard : executions (store.registry.find? key) notices = [] :=
    executions_of_others fun notice member => fires.others notice member ▸ other
  have uncounted (counts) (member : counts ∈ counted) :
      runs.count work.id counts = runs counts := by
    apply if_neg
    rintro rfl
    exact fires.uncounted other member
  have aside : Aside counted key store runs (store.spent timer.callback debouncer agenda)
      (runs.count work.id) := by
    refine .put (Registry.known_of_debouncer? fires.made) other ?_ uncounted
    intro id member apart made
    apply (quiet.minds id member made).time?_eq
    rintro spot kept rfl
    have pending : agenda.pending? spot =
        if spot = place then none else store.agenda.pending? spot := by
      rw [claimed]
      exact store.agenda.pending?_claim place spot
    have fired := Agenda.pending?_eq_some.mpr ⟨stored, active⟩
    rw [pending]
    grind
  cases swept with
  | spared rest late silent =>
      refine .spared (aside.trans rest) ?_ ?_
      · intro id member time holder made timed
        exact late id member time holder ((aside.member id holder).trans made)
          ((aside.time id member holder made).trans timed)
      · rw [executions_append, unheard]
        exact silent
  | @fired id member held time holder made supplied timed due found left counts executes =>
      have before := (aside.member id holder).symm.trans made
      have sets := (aside.time id member holder before).symm.trans timed
      refine .fired holder before supplied sets due found left ?_ ?_
      · intro place member
        rw [counts place member]
        exact Runs.count_congr (uncounted place member) _
      · have heard : executions (some id) notices = [] := holder ▸ unheard
        -- The other timer has moved the clock, but not beyond the time of this one.
        have clock : Instant.later agenda.now time = Instant.later store.agenda.now time := by
          rcases (quiet.minds id member before).awaits_of_time? sets with ⟨_, _, awaits⟩
          rcases Agenda.status?_eq_some.mp awaits.status with ⟨own, kept, waiting, rfl⟩
          have summed := quiet.summed _ own kept waiting
          rw [claimed]
          exact Instant.later_later_of_le (quiet.summed place timer stored active) (fun _ => summed)
            (Agenda.fireNext?_le next kept waiting due)
        rw [executions_append, executes, heard]
        exact congrArg (fun now => [(⟨held.id, held.name, now⟩ : Execution τ)]) clock

/-- An advance comes to its end, and the debouncer under the key knows nothing of the others. -/
theorem Store.Quiet.exists_sweeps [Instant.LawfulTies τ] (quiet : store.Quiet counted key)
    (ahead : store.agenda.now < deadline → Instant.Summed deadline) (fired : Nat) (runs : Runs) :
    ∃ ending, Sweeps counted key deadline fired store runs ending := by
  -- Each timer that fires is no longer pending, and quiet works set no timers.
  generalize size : store.agenda.pendingCount = n
  induction n using Nat.strong_induction_on generalizing store fired runs with
  | _ n ih =>
      cases next : store.agenda.fireNext? deadline with
      | none => exact ⟨_, quiet.sweeps_of_none next fired runs⟩
      | some found =>
          obtain ⟨place, timer, agenda⟩ := found
          rcases quiet.fires next fired runs with ⟨debouncer, work, notices, fires⟩
          rcases Agenda.fireNext?_eq_some next with ⟨stored, active, due, claimed⟩
          have summed := quiet.summed place timer stored active
          have fewer : agenda.pendingCount < n := by
            rw [← size, claimed]
            exact Agenda.pendingCount_claim stored active
          have clock : Instant.later agenda.now deadline =
              Instant.later store.agenda.now deadline := by
            rw [claimed]
            exact Instant.later_later_of_le summed ahead due
          have still : agenda.now < deadline → Instant.Summed deadline := by
            intro before
            rw [claimed] at before
            exact ahead (Instant.lt_of_later_lt due before)
          rcases ih _ fewer fires.left still (fired + 1) (runs.count work.id) rfl with
            ⟨rest, sweeps⟩
          refine ⟨_, fires.goesOn rest sweeps.ends, sweeps.replies, sweeps.quiet,
            sweeps.now.trans clock, ?_⟩
          by_cases own : store.registry.find? key = some timer.callback
          · exact fires.swept_own due own sweeps.swept
          · exact fires.swept_other quiet next own sweeps.swept

end Fires

end RegistrySession

end Debounce
