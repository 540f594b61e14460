import Debounce.Proofs.Seconds
import Debounce.Proofs.Solo
import Debounce.Proofs.Times
import Debounce.Session.Background

/-!
# Interchangeable schedulers

A virtual clock looks for the timers that are set for the deadline of an advance or earlier, and
fires each of them at its own time. Timers with a waiter of their own look at a clock that is set
from outside, and fire when nothing remains until their time. A debouncer with quiet works cannot
tell one from the other: its timer fires in the same steps, and nothing that it does when the timer
fires depends on what the clock reads then.
-/

namespace Debounce

instance {τ : Type} : Clocked (BackgroundSession.Op τ) := ⟨.now⟩

variable {τ κ ω : Type} [Instant τ]

/-! ## Timers that are due and timers that have expired -/

namespace Agenda

variable {agenda : Agenda τ κ} {P : τ → Prop}

/-- If the pending timers that are due at the deadline are those that have expired by the clock, then
a waiter at this clock claims the timer that an advance to the deadline claims. -/
theorem expireNext?_eq_fireNext? {deadline clock : τ}
    (agrees : agenda.AllPending fun time => time ≤ deadline ↔ time - clock ≤ Instant.zero) :
    expireNext? { agenda with now := clock } =
      (agenda.fireNext? deadline).map fun (id, timer, fired) =>
        (id, timer, { fired with now := clock }) := by
  have same : ∀ entry ∈ agenda.entries, entry.2.expired clock = entry.2.due deadline := by
    intro entry member
    rw [Timer.expired, Timer.due]
    cases active : entry.2.active with
    | false => rfl
    | true =>
        have iff := agrees entry.1 entry.2 (mem_entries.mp member) active
        simp [iff]
  have next : next? { agenda with now := clock } (Timer.expired clock) =
      agenda.next? (Timer.due deadline) := by
    rw [next?, next?]
    exact congrArg earliest? (List.filter_congr same)
  rw [expireNext?, fireNext?, next]
  cases found : agenda.next? (Timer.due deadline) with
  | none => rfl
  | some entry =>
      rcases next?_eq_some found with ⟨stored, due⟩
      have expired : entry.2.expired clock = true :=
        (same entry (mem_entries.mpr stored)).trans due
      have checks : entry.2.check clock = entry.2.claim := by
        rw [Timer.check, if_pos expired]
      have place : agenda.timers[entry.1]? = some entry.2 := stored
      simp [claim, update, place, checks]

/-- When the clock has arrived at a deadline at which no timer is due, no timer is due by the clock
either, if those that were due by the clock before are due at the deadline. -/
theorem ahead_of_arrive {deadline : τ} (absent : agenda.fireNext? deadline = none)
    (early : agenda.AllPending fun time => time ≤ agenda.now → time ≤ deadline) :
    agenda.AllPending fun time => ¬ time ≤ (agenda.arrive deadline).now := by
  intro id timer stored active come
  have due : timer.executionTime ≤ deadline :=
    (Instant.le_or_le_of_le_later come).elim (early id timer stored active) fun due => due
  exact absurd absent (fireNext?_ne_none stored active due)

end Agenda

/-! ## Between the steps of a run -/

namespace Debouncer

variable {debouncer : Debouncer τ ω} {agenda : Agenda τ κ}

/-- A new timer is set for a reading that can be compared. -/
theorem add_firstDelay_comparable [Instant.Lawful τ] {clock : τ}
    (debounced : debouncer.settings.passthrough = false) (inRange : debouncer.settings.InRange)
    (comparable : clock ≤ clock) (now : τ) :
    clock + debouncer.firstDelay now ≤ clock + debouncer.firstDelay now := by
  rcases Option.isSome_iff_exists.mp (by simpa [Settings.passthrough] using debounced) with
    ⟨interval, bounds⟩
  rcases firstDelay_cases bounds now with least | ⟨idle, _, given, _, _, _, longer⟩
  · rw [least]
    exact Instant.Lawful.add_seconds comparable (inRange.begin interval bounds)
  · rw [longer]
    exact Instant.Lawful.add_seconds comparable (inRange.idleTime idle given)

/-- Every request sets and moves timers to readings that can be compared. -/
theorem Served.comparable [Instant.Lawful τ] {callback : κ} {request : Request ω}
    {turn : Turn τ (Agenda τ κ) ω} (form : Served debouncer agenda callback request turn)
    (inRange : debouncer.settings.InRange) (clock : agenda.now ≤ agenda.now)
    (all : agenda.AllPending fun time => time ≤ time) :
    turn.scheduler.AllPending fun time => time ≤ time := by
  cases form with
  | refusedCall _ | passedOn _ _ | refusedNow _ | ranNow _ | nothingToFlush _ => exact all
  | leading _ _ _ call => cases call <;> exact all
  | reset =>
      rw [Debouncer.reset]
      cases debouncer.timer with
      | none => exact all
      | some id => exact all.cancel id
  | flushed _ _ | tooLateToFlush _ _ => exact all.cancel _
  | trailing _ debounced _ call =>
      cases call with
      | opened _ => exact all.add (add_firstDelay_comparable debounced inRange clock _) callback
      | overdue _ _ _ | overtaken _ _ _ => exact all.cancel _
      | moved _ _ later =>
          exact all.reschedule (Instant.Lawful.le_right (Instant.Lawful.le_of_lt later)) _
      | kept _ _ _ => exact all

end Debouncer

namespace Solo

variable {solo : Solo τ} {deadline : τ} {runs : Runs} {after : Aftermath (Solo τ)}

/-- What holds after every operation. -/
structure Sound (solo : Solo τ) : Prop where
  coherent : solo.Coherent
  inRange : solo.debouncer.settings.InRange
  comparable : solo.agenda.AllPending fun time => time ≤ time

/-- What holds between two steps: the time of a pending timer has not come. -/
structure Settled (solo : Solo τ) : Prop extends Sound solo where
  ahead : solo.agenda.AllPending fun time => ¬ time ≤ solo.agenda.now

theorem Sound.serve [Instant.Lawful τ] (sound : solo.Sound)
    (clock : solo.agenda.now ≤ solo.agenda.now) (request : Request (QuietWork τ)) (runs : Runs) :
    (solo.serve request runs).2.store.Sound := by
  have coherent := sound.coherent.serve request runs
  have form := solo.served_turn request
  rcases solo.store_serve request runs with ⟨call?, left⟩
  rw [left] at coherent ⊢
  exact ⟨coherent, form.settings ▸ sound.inRange,
    form.comparable sound.inRange clock sound.comparable⟩

/-- An advance by nothing is far enough for the timers whose time has come. -/
theorem early_of_zero [Instant.LawfulDeadlines τ] (clock : solo.agenda.now ≤ solo.agenda.now) :
    solo.agenda.AllPending fun time =>
      time ≤ solo.agenda.now → time ≤ solo.agenda.now + Instant.zero := by
  intro id timer _ _ come
  exact Instant.Lawful.le_trans come (Instant.LawfulDeadlines.le_add_zero clock)

theorem Settled.early (settled : solo.Settled) (deadline : τ) :
    solo.agenda.AllPending fun time => time ≤ solo.agenda.now → time ≤ deadline := by
  intro id timer stored active come
  exact absurd come (settled.ahead id timer stored active)

/-- A sweep leaves no timer behind whose time has come, if those whose time had come before are due
at the deadline. -/
theorem Swept.settled (form : solo.Swept deadline runs after) (sound : solo.Sound)
    (early : solo.agenda.AllPending fun time => time ≤ solo.agenda.now → time ≤ deadline) :
    after.store.Settled := by
  have coherent := form.coherent sound.coherent
  cases form with
  | idle absent =>
      exact ⟨⟨coherent, sound.inRange, sound.comparable⟩, Agenda.ahead_of_arrive absent early⟩
  | @fired id timer fired work found held supplied holds =>
      have idle : (fired.arrive deadline).Holds none := holds.of_timers rfl
      refine ⟨⟨coherent, ?_, .of_holds_none idle⟩, .of_holds_none idle⟩
      simpa using sound.inRange

/-- The timers that are due at the deadline of a sweep are those that have expired by the clock after
it. -/
theorem Swept.agrees [Instant.LawfulDeadlines τ] (form : solo.Swept deadline runs after)
    (sound : solo.Sound) (clock : solo.agenda.now ≤ solo.agenda.now)
    (early : solo.agenda.AllPending fun time => time ≤ solo.agenda.now → time ≤ deadline)
    (finite : Instant.Finite after.store.agenda.now) :
    solo.agenda.AllPending fun time =>
      time ≤ deadline ↔ time - after.store.agenda.now ≤ Instant.zero := by
  intro id timer stored active
  have comparable := sound.comparable id timer stored active
  rw [Instant.LawfulDeadlines.sub_le_zero comparable finite]
  cases form with
  | idle absent =>
      constructor
      · intro due
        exact absurd absent (Agenda.fireNext?_ne_none stored active due)
      · intro come
        exact absurd come (Agenda.ahead_of_arrive absent early id timer stored active)
  | @fired other next fired work found held supplied holds =>
      rcases Agenda.fireNext?_eq_some found with ⟨there, _, due, rfl⟩
      have pending := (sound.coherent.holds id).mp (by simp [Agenda.isPending, stored, active])
      obtain rfl : other = id := Option.some.inj (held.symm.trans pending)
      obtain rfl : next = timer := Option.some.inj (there.symm.trans stored)
      have moved := Instant.le_later_right clock comparable
      have come := Instant.Lawful.le_trans moved
        (Instant.le_later_left (Instant.Lawful.le_right moved) deadline)
      exact ⟨fun _ => come, fun _ => due⟩

/-- Where the clock is not to move, it does not. -/
theorem Swept.now_eq [Instant.LawfulDeadlines τ]
    (form : solo.Swept (solo.agenda.now + Instant.zero) runs after)
    (clock : solo.agenda.now ≤ solo.agenda.now) : after.store.agenda.now = solo.agenda.now := by
  have reached := Instant.LawfulDeadlines.add_zero_le clock
  cases form with
  | idle absent => exact if_neg (Instant.LawfulDeadlines.not_lt reached)
  | @fired id timer fired work found held supplied holds =>
      rcases Agenda.fireNext?_eq_some found with ⟨_, _, due, rfl⟩
      have moved : Instant.later solo.agenda.now timer.executionTime = solo.agenda.now :=
        if_neg (Instant.LawfulDeadlines.not_lt (Instant.Lawful.le_trans due reached))
      change Instant.later (Instant.later _ _) _ = _
      rw [moved]
      exact if_neg (Instant.LawfulDeadlines.not_lt reached)

theorem Settled.carryOut [Instant.LawfulDeadlines τ] (settled : solo.Settled)
    (clock : solo.agenda.now ≤ solo.agenda.now) (runs : Runs) (deed : Deed τ) :
    (solo.carryOut runs deed).2.1.Settled := by
  cases deed with
  | request request =>
      have sound := settled.toSound.serve clock request runs
      have still := solo.now_serve request runs
      exact (sound.coherent.swept _ _).settled sound (early_of_zero (still ▸ clock))
  | move delay => exact (settled.coherent.swept _ _).settled settled.toSound (settled.early _)

/-- The session with a background pool. -/
def pooled (process : Process) (solo : Solo τ) : BackgroundSession.Store τ where
  agenda := solo.agenda.map fun _ => { context := [], task := .debouncer }
  debouncer := some (solo.debouncer.map Work.returning)
  process := process

/-- The clock set to the given reading. -/
def setClock (solo : Solo τ) (time : τ) : Solo τ :=
  { solo with agenda := { solo.agenda with now := time } }

end Solo

/-! ## Sessions with a background pool -/

namespace BackgroundSession

theorem shows_clock : machine.Shows fun store : Store τ => store.agenda.now := by
  intro store
  rfl

variable {solo : Solo τ} {process : Process} {pool : Pool}

theorem concludes_answer (op : Op τ) (store : Store τ) (runs : Runs) (reply : Reply τ) :
    machine.Concludes op (answer store reply) runs reply { store := store, runs := runs } :=
  .finish rfl

theorem concludes_request (coherent : solo.Coherent) (process : Process)
    (request : Request (QuietWork τ)) (runs : Runs) :
    machine.Concludes (.request (request.map Work.returning))
      (start (.request (request.map Work.returning)) (solo.pooled process)) runs
      (solo.serve request runs).1 ((solo.serve request runs).2.map (Solo.pooled process)) := by
  let replace (_ : Unit) : Deferred τ := { context := [], task := .debouncer }
  have takes : start (.request (request.map Work.returning)) (solo.pooled process) =
      take (solo.pooled process) ((solo.turn request).map Work.returning replace) .serving := by
    have served := solo.debouncer.serve_map (Work.returning : QuietWork τ → Work (Op τ) (Reply τ))
      replace solo.agenda () request
    exact congrArg (take (solo.pooled process) · .serving) served
  rw [takes, take]
  apply coherent.concludes_serve request replace shows_clock
  · intro debouncer agenda
    rfl
  · intro debouncer agenda tail value
    rfl

theorem settle_of_idle {store : Store τ} (idle : store.agenda.expireNext? = none) :
    settle store = answer store (.ok .nothing) := by
  rw [settle, idle]

/-- The turn of a timer that the pool takes over. -/
def handing (debouncer : Debouncer τ (Work (Op τ) (Reply τ))) (agenda : Agenda τ (Deferred τ))
    (id : TimerId) : Turn τ (Agenda τ (Deferred τ)) (Work (Op τ) (Reply τ)) :=
  { debouncer.fire agenda id with
    events := .handedOver id :: (debouncer.fire agenda id).events }

omit [Instant τ] in
theorem handing_executes (debouncer : Debouncer τ (Work (Op τ) (Reply τ)))
    (agenda : Agenda τ (Deferred τ)) (id : TimerId) :
    (handing debouncer agenda id).Executes (.timer id) :=
  ⟨⟨.passOn, rfl⟩, [.handedOver id], rfl, by simp⟩

theorem settle_of_expired {store : Store τ} {debouncer : Debouncer τ (Work (Op τ) (Reply τ))}
    {id : TimerId} {timer : Timer τ (Deferred τ)} {agenda : Agenda τ (Deferred τ)}
    (made : store.process.executor = (.ok pool, store.process))
    (held : store.debouncer = some debouncer)
    (expired : store.agenda.expireNext? = some (id, timer, agenda))
    (task : timer.callback.task = .debouncer) :
    settle store =
      take { store with agenda := agenda, context := timer.callback.context }
        (handing debouncer agenda id) fun _ => .settling (some id) store.context := by
  rw [settle, expired]
  dsimp only
  rw [made, task]
  simp only [runTask, held, handing]

/-- When the clock has been set to what a sweep makes of it, settling does what the sweep does. -/
theorem concludes_settle (made : process.executor = (.ok pool, process)) {deadline : τ} {runs : Runs}
    {after : Aftermath (Solo τ)} (form : solo.Swept deadline runs after)
    (agrees : solo.agenda.AllPending fun time =>
      time ≤ deadline ↔ time - after.store.agenda.now ≤ Instant.zero) (op : Op τ) :
    machine.Concludes op (settle ((solo.setClock after.store.agenda.now).pooled process)) runs
      (.ok .nothing) (after.map (Solo.pooled process)) := by
  let replace (_ : Unit) : Deferred τ := { context := [], task := .debouncer }
  have next : ((solo.setClock after.store.agenda.now).pooled process).agenda.expireNext? =
      (solo.agenda.fireNext? deadline).map fun (id, timer, fired) =>
        (id, timer.map replace,
          Agenda.map replace { fired with now := after.store.agenda.now }) := by
    change (Agenda.map replace { solo.agenda with now := after.store.agenda.now }).expireNext? = _
    rw [Agenda.expireNext?_map, Agenda.expireNext?_eq_fireNext? agrees, Option.map_map]
    rfl
  cases form with
  | idle absent =>
      rw [absent] at next
      rw [settle_of_idle next]
      exact concludes_answer _ _ _ _
  | @fired id timer fired work found held supplied holds =>
      rw [found] at next
      let left : Store τ :=
        Solo.pooled process ⟨(solo.debouncer.fire fired id).debouncer, fired.arrive deadline⟩
      let turn := handing (solo.debouncer.map Work.returning) left.agenda id
      have remains : some turn.debouncer = left.debouncer :=
        congrArg some (solo.debouncer.fire_map Work.returning fired left.agenda id)
      have holdsWork : turn.debouncer.work = some work.returning := by
        simp [turn, handing, Debouncer.map, supplied]
      have idle : left.agenda.expireNext? = none := by
        have free : (fired.arrive deadline).Holds none := holds.of_timers rfl
        exact (Agenda.expireNext?_map replace _).trans (by rw [free.expireNext?_eq_none]; rfl)
      have rest (answer : Answer τ) : machine.Concludes op
          (resume (.settling (some id) []) (.ok answer)
            { left with debouncer := some turn.debouncer })
          (runs.count work.id) (.ok .nothing) { store := left, runs := runs.count work.id } := by
        rw [remains]
        change machine.Concludes op (settle left) _ _ _
        rw [settle_of_idle idle]
        exact concludes_answer _ _ _ _
      rw [settle_of_expired made rfl next rfl]
      exact (handing_executes _ _ id).concludes shows_clock rfl holdsWork (rest _)

/-- Carries out a step with timers that wait on a clock which is set to the given reading by a move.
After every step each expired timer fires. -/
def carryOut? (fuel : Nat) (state : Store τ × Runs) :
    Deed τ × τ → Option (Sight τ × Store τ × Runs)
  | (.request request, _) => do
      let (reply, served) ←
        machine.conclude? fuel (.request (request.map Work.returning)) state.1 state.2
      let (_, settled) ← machine.conclude? fuel .settle served.store served.runs
      let debouncer ← settled.store.debouncer
      let works := served.works ++ settled.works
      return (debouncer.sight settled.store.agenda (some reply) works, settled.store, settled.runs)
  | (.move _, instant) => do
      let (_, moved) ← machine.conclude? fuel (.setClock (.ok instant)) state.1 state.2
      let (_, settled) ← machine.conclude? fuel .settle moved.store moved.runs
      let debouncer ← settled.store.debouncer
      let works := moved.works ++ settled.works
      return (debouncer.sight settled.store.agenda none works, settled.store, settled.runs)

/-- With timers that wait on a clock a step is carried out as told of a virtual clock, if the clock is
set to what the virtual one reads then. -/
theorem carryOut?_pooled [Instant.LawfulDeadlines τ] (settled : solo.Settled)
    (made : process.executor = (.ok pool, process)) (clock : solo.agenda.now ≤ solo.agenda.now)
    (runs : Runs) (deed : Deed τ) (finite : Instant.Finite (solo.carryOut runs deed).1.now) :
    ∀ᶠ fuel in Filter.atTop,
      carryOut? fuel (solo.pooled process, runs) (deed, (solo.carryOut runs deed).1.now) =
        some ((solo.carryOut runs deed).1, (solo.carryOut runs deed).2.1.pooled process,
          (solo.carryOut runs deed).2.2) := by
  cases deed with
  | request request =>
      let served := (solo.serve request runs).2
      let swept := served.store.sweep (served.store.agenda.now + Instant.zero) served.runs
      have sound : served.store.Sound := settled.toSound.serve clock request runs
      have still : served.store.agenda.now = solo.agenda.now := solo.now_serve request runs
      have clockServed : served.store.agenda.now ≤ served.store.agenda.now := still ▸ clock
      have form : served.store.Swept _ served.runs swept := sound.coherent.swept _ _
      have agrees := form.agrees sound clockServed (Solo.early_of_zero clockServed) finite
      have settles := concludes_settle made form agrees .settle
      rw [form.now_eq clockServed] at settles
      filter_upwards [(concludes_request settled.coherent process request runs).conclude?,
        Machine.Concludes.conclude? settles] with fuel first second
      refine Option.bind_eq_some_iff.mpr ⟨_, first, Option.bind_eq_some_iff.mpr ⟨_, second, ?_⟩⟩
      exact congrArg some (Prod.ext (Debouncer.sight_map _ _ _ _) rfl)
  | move delay =>
      let swept := solo.sweep (solo.agenda.now + delay) runs
      have form : solo.Swept (solo.agenda.now + delay) runs swept := settled.coherent.swept _ _
      have agrees := form.agrees settled.toSound clock (settled.early _) finite
      have sets : machine.Concludes (.setClock (.ok swept.store.agenda.now))
          (start (.setClock (.ok swept.store.agenda.now)) (solo.pooled process)) runs
          (.ok .nothing)
          { store := (solo.setClock swept.store.agenda.now).pooled process, runs := runs } :=
        concludes_answer _ _ _ _
      have settles := concludes_settle made form agrees .settle
      filter_upwards [sets.conclude?, settles.conclude?] with fuel first second
      refine Option.bind_eq_some_iff.mpr ⟨_, first, Option.bind_eq_some_iff.mpr ⟨_, second, ?_⟩⟩
      exact congrArg some (Prod.ext (Debouncer.sight_map _ _ _ _) rfl)

/-- With timers that wait on a clock a run is seen as told of a virtual clock, if the clock goes
through finite readings of the virtual one. -/
theorem sights?_pooled [Instant.LawfulDeadlines τ] (settled : solo.Settled)
    (made : process.executor = (.ok pool, process)) (clock : solo.agenda.now ≤ solo.agenda.now)
    (runs : Runs) (deeds : List (Deed τ))
    (finite : ∀ sight ∈ solo.sights runs deeds, Instant.Finite sight.now) :
    ∀ᶠ fuel in Filter.atTop,
      sights? (carryOut? fuel) (solo.pooled process, runs)
          (deeds.zip ((solo.sights runs deeds).map Sight.now)) =
        some (solo.sights runs deeds) := by
  induction deeds generalizing solo runs with
  | nil => exact Filter.Eventually.of_forall fun _ => rfl
  | cons deed rest ih =>
      have finiteNow : Instant.Finite (solo.carryOut runs deed).1.now :=
        finite _ List.mem_cons_self
      have clockAfter := solo.now_carryOut runs deed ▸ Instant.LawfulDeadlines.comparable finiteNow
      filter_upwards [carryOut?_pooled settled made clock runs deed finiteNow,
        ih (settled.carryOut clock runs deed) clockAfter (solo.carryOut runs deed).2.2
          fun sight member => finite sight (List.mem_cons_of_mem _ member)] with fuel first later
      exact Option.bind_eq_some_iff.mpr ⟨_, first, Option.bind_eq_some_iff.mpr ⟨_, later, rfl⟩⟩

end BackgroundSession

/-- A pool that has been made is there when it is asked for again. -/
theorem Process.executor_of_executor {process made : Process} {pool : Pool}
    (first : process.executor = (.ok pool, made)) : made.executor = (.ok pool, made) := by
  rw [executor] at first
  split at first
  · next there =>
      cases first
      rw [executor, there]
  · split at first
    · cases first
    · cases first
      rfl

theorem Solo.Settled.new (settings : Settings) (name : Value) (clock : τ)
    (inRange : settings.InRange) :
    Settled { debouncer := .new settings name clock, agenda := { now := clock } } where
  coherent := .new settings name
  inRange := by simpa [Debouncer.new] using inRange
  comparable := .of_holds_none (Agenda.holds_nil clock)
  ahead := .of_holds_none (Agenda.holds_nil clock)

/-- Take any run of requests and moves of the clock, with quiet works, on a virtual clock where every
request is followed by an advance to the same instant. If the clock comes to finite instants only,
timers that wait on a clock which is set to these instants show the same after every step: the reply,
the works that have run, and the state of the debouncer and of its timer. -/
theorem schedulers_interchangeable [Instant.LawfulDeadlines τ] (settings : Settings) (name : Value)
    (clock : τ) (environment : Environment) (store : BackgroundSession.Store τ)
    (deeds : List (Deed τ)) (inRange : settings.InRange) (finite : Instant.Finite clock)
    (created : BackgroundSession.Store.create clock environment = .ok store) :
    ∃ sights : List (Sight τ),
      (∀ᶠ fuel in Filter.atTop, sights? (DebouncerSession.carryOut? fuel)
        (.new (.new settings name clock) clock, Runs.none) deeds = some sights) ∧
      ((∀ sight ∈ sights, Instant.Finite sight.now) →
        ∀ᶠ fuel in Filter.atTop, sights? (BackgroundSession.carryOut? fuel)
          ({ store with debouncer := some (.new settings name clock) }, Runs.none)
          (deeds.zip (sights.map Sight.now)) = some sights) := by
  let solo : Solo τ := { debouncer := .new settings name clock, agenda := { now := clock } }
  have settled : solo.Settled := .new settings name clock inRange
  have comparable := Instant.LawfulDeadlines.comparable finite
  refine ⟨solo.sights Runs.none deeds, ?_, ?_⟩
  · have seen := DebouncerSession.sights?_virtual settled.coherent Runs.none deeds
    have start : solo.virtual = .new (.new settings name clock) clock := by
      rw [Solo.virtual, Debouncer.new_map]
      rfl
    rwa [start] at seen
  · intro finiteAll
    rw [BackgroundSession.Store.create] at created
    split at created
    · next pool process made =>
        cases created
        have seen := BackgroundSession.sights?_pooled settled (Process.executor_of_executor made)
          comparable Runs.none deeds finiteAll
        rw [Solo.pooled, Debouncer.new_map] at seen
        exact seen
    · cases created

/-- A work that returns what the clock reads. -/
def QuietWork.reading : QuietWork τ where
  id := [0]
  name := "reading"
  body _ := .step .now .done

/-- A call starts a timer, the next one moves it, and it fires on the way to the last instant. -/
theorem schedulers_interchangeable_of_calls :
    let deeds : List (Deed Float) :=
      [.request (.call (some .reading)), .move 0.5, .request (.call none), .move 3, .request .flush]
    ∃ store sights, BackgroundSession.Store.create (0 : Float) [] = .ok store ∧
      sights.map Sight.executionTime? = [some 1, some 1, some 2, none, none] ∧
      sights.map Sight.now = [0, 0.5, 0.5, 3.5, 3.5] ∧
      sights.map Sight.works = [[], [], [], [([0], "reading")], []] ∧
      ∀ᶠ fuel in Filter.atTop, sights? (BackgroundSession.carryOut? fuel)
        ({ store with debouncer := some (.new (oneToTwo false) .null 0) }, Runs.none)
        (deeds.zip (sights.map Sight.now)) = some sights := by
  intro deeds
  let solo : Solo Float := { debouncer := .new (oneToTwo false) .null 0, agenda := { now := 0 } }
  have inRange := DebouncerSession.oneToTwo_inRange false
  have told := DebouncerSession.sights?_virtual
    (Solo.Settled.new (oneToTwo false) .null (0 : Float) inRange).coherent Runs.none deeds
  rcases schedulers_interchangeable (oneToTwo false) .null 0 [] _ deeds inRange (by decide +kernel)
    rfl with ⟨sights, virtual, pooled⟩
  have same : sights = solo.sights Runs.none deeds := by
    rcases (virtual.and told).exists with ⟨fuel, first, second⟩
    exact Option.some.inj (first.symm.trans second)
  subst same
  refine ⟨_, _, rfl, by decide +kernel, by decide +kernel, by decide +kernel, pooled ?_⟩
  decide +kernel

end Debounce
