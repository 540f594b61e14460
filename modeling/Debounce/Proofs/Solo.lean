import Debounce.Proofs.Calls
import Debounce.Proofs.Natural
import Debounce.Proofs.Quiet

/-!
# Debouncers with quiet works

Between two steps of a run nothing happens to a debouncer whose works are quiet, except that its
timer fires if it is due. What such a debouncer does can therefore be told without a session: a
request is served and the work that it asks for is run, and then one timer is swept up at most. This
module tells it so, and shows that a session with a virtual clock does exactly this.
-/

namespace Debounce

variable {τ : Type}

/-! ## Runs as they are seen -/

/-- A step of a run. -/
inductive Deed (τ : Type) where
  | request (request : Request (QuietWork τ))
  /-- The clock is moved on. -/
  | move (delay : τ)

/-- What is seen of a debouncer after a step. -/
structure Sight (τ : Type) where
  /-- What the request has replied, if the step was one. -/
  reply? : Option (Reply τ)
  /-- The works that began to run in the step. -/
  works : List (WorkId × String)
  now : τ
  pending : Bool
  lastCall : Option τ
  leadingTimestamp : Option τ
  /-- The execution time of the timer that is held. -/
  executionTime? : Option τ

/-- Looks at a debouncer after a step. -/
def Debouncer.sight {σ κ ω : Type} [Scheduler σ τ κ] (debouncer : Debouncer τ ω) (scheduler : σ)
    (reply? : Option (Reply τ)) (works : List (WorkId × String)) : Sight τ where
  reply? := reply?
  works := works
  now := Scheduler.now scheduler
  pending := debouncer.pending scheduler
  lastCall := debouncer.lastCall
  leadingTimestamp := debouncer.leadingTimestamp
  executionTime? := (debouncer.timerStatus? scheduler).map Timer.Status.executionTime

/-- What is seen in a run, if every step comes to an end. -/
def sights? {State Step : Type} (next? : State → Step → Option (Sight τ × State)) (state : State) :
    List Step → Option (List (Sight τ))
  | [] => some []
  | step :: rest => do
      let (sight, state) ← next? state step
      let sights ← sights? next? state rest
      return sight :: sights

instance : Clocked (DebouncerSession.Op τ) := ⟨.now⟩

variable [Instant τ]

/-- Carries out a step on a virtual clock. A request is followed by an advance to the same
instant. -/
def DebouncerSession.carryOut? (fuel : Nat) (state : Store τ × Runs) :
    Deed τ → Option (Sight τ × Store τ × Runs)
  | .request request => do
      let (reply, served) ←
        machine.conclude? fuel (.request (request.map Work.returning)) state.1 state.2
      let (_, swept) ← machine.conclude? fuel (.advance (.ok Instant.zero)) served.store served.runs
      let works := served.works ++ swept.works
      return (swept.store.debouncer.sight swept.store.agenda (some reply) works, swept.store,
        swept.runs)
  | .move delay => do
      let (_, swept) ← machine.conclude? fuel (.advance (.ok delay)) state.1 state.2
      return (swept.store.debouncer.sight swept.store.agenda none swept.works, swept.store,
        swept.runs)

/-! ## A debouncer and its agenda -/

/-- A debouncer with quiet works, and the agenda that it uses alone. -/
structure Solo (τ : Type) where
  debouncer : Debouncer τ (QuietWork τ)
  agenda : Agenda τ Unit

namespace Solo

/-- The turn that serves a request. -/
def turn (solo : Solo τ) (request : Request (QuietWork τ)) : Turn τ (Agenda τ Unit) (QuietWork τ) :=
  solo.debouncer.serve solo.agenda () request

/-- Serves a request and runs the work if one is asked for. -/
def serve (solo : Solo τ) (request : Request (QuietWork τ)) (runs : Runs) :
    Reply τ × Aftermath (Solo τ) :=
  let turn := solo.turn request
  match turn.demand, turn.debouncer.work with
  | .reply reply, _ =>
      (reply, { store := ⟨turn.debouncer, turn.scheduler⟩, runs := runs })
  | .execute _, none =>
      (.error .notCallable, { store := ⟨turn.debouncer, turn.scheduler⟩, runs := runs })
  | .execute tail, some work =>
      let answer := work.returned runs turn.scheduler.now
      let (debouncer, reply) := turn.debouncer.finish tail (.ok answer)
      (reply,
        { store := ⟨debouncer, turn.scheduler⟩
          runs := runs.count work.id
          works := [(work.id, work.name)] })

/-- Lets the clock arrive at the deadline. On the way the timer fires if it is due, and runs the
work. -/
def sweep (solo : Solo τ) (deadline : τ) (runs : Runs) : Aftermath (Solo τ) :=
  match solo.agenda.fireNext? deadline with
  | none => { store := ⟨solo.debouncer, solo.agenda.arrive deadline⟩, runs := runs }
  | some (id, _, fired) =>
      let left := (solo.debouncer.fire fired id).debouncer
      match left.work with
      | none => { store := ⟨left, fired.arrive deadline⟩, runs := runs }
      | some work =>
          { store := ⟨left, fired.arrive deadline⟩
            runs := runs.count work.id
            works := [(work.id, work.name)] }

/-- Looks at the debouncer after a step. -/
def sight (solo : Solo τ) (reply? : Option (Reply τ)) (works : List (WorkId × String)) : Sight τ :=
  solo.debouncer.sight solo.agenda reply? works

/-- Carries out a step. -/
def carryOut (solo : Solo τ) (runs : Runs) : Deed τ → Sight τ × Solo τ × Runs
  | .request request =>
      let (reply, served) := solo.serve request runs
      let swept := served.store.sweep (served.store.agenda.now + Instant.zero) served.runs
      (swept.store.sight (some reply) (served.works ++ swept.works), swept.store, swept.runs)
  | .move delay =>
      let swept := solo.sweep (solo.agenda.now + delay) runs
      (swept.store.sight none swept.works, swept.store, swept.runs)

/-- What is seen in a run. -/
def sights (solo : Solo τ) (runs : Runs) : List (Deed τ) → List (Sight τ)
  | [] => []
  | deed :: rest =>
      let (sight, solo, runs) := solo.carryOut runs deed
      sight :: solo.sights runs rest

/-- The session with a virtual clock. -/
def virtual (solo : Solo τ) : DebouncerSession.Store τ where
  agenda := solo.agenda
  debouncer := solo.debouncer.map Work.returning

end Solo

/-! ## What steps preserve -/

namespace Debouncer

variable {κ ω : Type} {debouncer : Debouncer τ ω} {agenda : Agenda τ κ}

/-- What is seen of a debouncer does not depend on the kind of its works and callbacks. -/
theorem sight_map {κ' ω' : Type} (convert : ω → ω') (replace : κ → κ') (reply? : Option (Reply τ))
    (works : List (WorkId × String)) :
    (debouncer.map convert).sight (agenda.map replace) reply? works =
      debouncer.sight agenda reply? works := by
  rw [sight, sight, pending_map, timerStatus?_map]
  rfl

end Debouncer

namespace Solo

variable {solo : Solo τ}

/-- The debouncer and its agenda are coherent. -/
def Coherent (solo : Solo τ) : Prop := solo.debouncer.Coherent solo.agenda

/-- A request leaves what its turn leaves, except for the last call. -/
theorem store_serve (solo : Solo τ) (request : Request (QuietWork τ)) (runs : Runs) :
    ∃ call?, (solo.serve request runs).2.store =
      ⟨{ (solo.turn request).debouncer with lastCall := call? }, (solo.turn request).scheduler⟩ := by
  rw [serve]
  split
  · exact ⟨_, rfl⟩
  · exact ⟨_, rfl⟩
  · next tail work _ _ =>
      dsimp only
      rw [Debouncer.finish_eq]
      exact ⟨_, rfl⟩

theorem served_turn (solo : Solo τ) (request : Request (QuietWork τ)) :
    Debouncer.Served solo.debouncer solo.agenda () request (solo.turn request) :=
  Debouncer.served_serve solo.debouncer solo.agenda () request

theorem now_serve (solo : Solo τ) (request : Request (QuietWork τ)) (runs : Runs) :
    (solo.serve request runs).2.store.agenda.now = solo.agenda.now := by
  rcases solo.store_serve request runs with ⟨call?, left⟩
  rw [left]
  exact (solo.served_turn request).now

theorem now_carryOut (solo : Solo τ) (runs : Runs) (deed : Deed τ) :
    (solo.carryOut runs deed).1.now = (solo.carryOut runs deed).2.1.agenda.now := by
  cases deed <;> rfl

theorem Coherent.serve (coherent : solo.Coherent) (request : Request (QuietWork τ)) (runs : Runs) :
    (solo.serve request runs).2.store.Coherent := by
  rcases solo.store_serve request runs with ⟨call?, left⟩
  have kept := Debouncer.Coherent.served coherent (solo.served_turn request)
  rw [left]
  exact kept.record call?

/-- A sweep finds no timer that is due, or it fires the one that the debouncer holds. -/
inductive Swept (solo : Solo τ) (deadline : τ) (runs : Runs) : Aftermath (Solo τ) → Prop where
  | idle :
      solo.agenda.fireNext? deadline = none →
      Swept solo deadline runs
        { store := ⟨solo.debouncer, solo.agenda.arrive deadline⟩, runs := runs }
  | fired {id : TimerId} {timer : Timer τ Unit} {fired : Agenda τ Unit} {work : QuietWork τ} :
      solo.agenda.fireNext? deadline = some (id, timer, fired) →
      solo.debouncer.timer = some id → solo.debouncer.work = some work → fired.Holds none →
      Swept solo deadline runs
        { store := ⟨(solo.debouncer.fire fired id).debouncer, fired.arrive deadline⟩
          runs := runs.count work.id
          works := [(work.id, work.name)] }

theorem Coherent.swept (coherent : solo.Coherent) (deadline : τ) (runs : Runs) :
    Swept solo deadline runs (solo.sweep deadline runs) := by
  rw [sweep]
  split
  · next absent => exact .idle absent
  · next id timer fired found =>
      rcases Debouncer.Coherent.timer_of_fireNext? coherent found with ⟨held, holds⟩
      rcases Option.isSome_iff_exists.mp (coherent.supplied (by simp [held])) with ⟨work, supplied⟩
      simp only [Debouncer.fire_work, supplied]
      exact .fired found held supplied holds

theorem Swept.coherent {deadline : τ} {runs : Runs} {after : Aftermath (Solo τ)}
    (form : Swept solo deadline runs after) (coherent : solo.Coherent) : after.store.Coherent := by
  cases form with
  | idle _ => exact Debouncer.Coherent.arrive coherent deadline
  | @fired id timer fired work found held supplied holds =>
      exact .of_timer_eq_none (Debouncer.fire_timer fired held) (holds.of_timers rfl)

theorem Coherent.sweep (coherent : solo.Coherent) (deadline : τ) (runs : Runs) :
    (solo.sweep deadline runs).store.Coherent :=
  (coherent.swept deadline runs).coherent coherent

theorem Coherent.carryOut (coherent : solo.Coherent) (runs : Runs) (deed : Deed τ) :
    (solo.carryOut runs deed).2.1.Coherent := by
  cases deed with
  | request request => exact (coherent.serve request runs).sweep _ _
  | move delay => exact coherent.sweep _ runs

/-! ## Sessions -/

variable {runs : Runs} {κ Op Store Frame : Type}
variable {machine : Machine Op (Reply τ) Store Frame (Event τ)} {op : Op} {context : Fields}
variable {frame : Tail τ → Frame} {put : Debouncer τ (Work Op (Reply τ)) → Agenda τ κ → Store}
variable [Clocked Op] {clock : Store → τ}

/-- A session that takes over the turns of a debouncer serves requests as told here, whatever the
callbacks of its timers are. -/
theorem Coherent.concludes_serve (coherent : solo.Coherent) (request : Request (QuietWork τ))
    (replace : Unit → κ) (shows : machine.Shows clock)
    (reads : ∀ debouncer agenda, clock (put debouncer agenda) = agenda.now)
    (ends : ∀ debouncer agenda tail value,
      machine.resume (frame tail) (.ok value) (put debouncer agenda) =
        { store := put (debouncer.finish tail (.ok value)).1 agenda, events := []
          next := .finish (debouncer.finish tail (.ok value)).2 }) :
    machine.Concludes op
      (((solo.turn request).map Work.returning replace).effect context frame put) runs
      (solo.serve request runs).1
      ((solo.serve request runs).2.map fun left =>
        put (left.debouncer.map Work.returning) (left.agenda.map replace)) := by
  have form := solo.served_turn request
  rcases form.executes_or_replies with ⟨cause, executes⟩ | replies
  · rcases executes.demand with ⟨tail, demand⟩
    obtain ⟨work, held⟩ := form.work_of_executes executes fun id timed _ =>
      coherent.supplied (by simp [timed])
    have supplied : ((solo.turn request).debouncer.map Work.returning).work =
        some (work.returning : Work Op (Reply τ)) := by
      simp [Debouncer.map, held]
    let answer := work.returned runs (solo.turn request).scheduler.now
    let ended := (solo.turn request).debouncer.finish tail (.ok answer)
    let agenda := (solo.turn request).scheduler.map replace
    have rest : machine.Concludes op
        (machine.resume (frame tail) (.ok answer)
          (put ((solo.turn request).debouncer.map Work.returning) agenda))
        (runs.count work.id) ended.2
        { store := put (ended.1.map Work.returning) agenda, runs := runs.count work.id } := by
      rw [ends, Debouncer.finish_map]
      exact .finish rfl
    simp only [Solo.serve, demand, held]
    apply (executes.map Work.returning replace).concludes shows demand supplied
    rw [reads]
    exact rest
  · rcases replies.demand with ⟨reply, demand⟩
    simp only [Solo.serve, demand]
    exact (replies.map Work.returning replace).concludes demand

end Solo

namespace DebouncerSession

variable {solo : Solo τ}

theorem shows_clock : machine.Shows fun store : Store τ => store.agenda.now := by
  intro store
  rfl

theorem concludes_request (coherent : solo.Coherent) (request : Request (QuietWork τ))
    (runs : Runs) :
    machine.Concludes (.request (request.map Work.returning))
      (start (.request (request.map Work.returning)) solo.virtual) runs (solo.serve request runs).1
      ((solo.serve request runs).2.map Solo.virtual) := by
  have same : Solo.virtual = fun solo : Solo τ =>
      { agenda := solo.agenda.map fun callback => callback
        debouncer := solo.debouncer.map Work.returning } := by
    funext solo
    rw [Agenda.map_id, Solo.virtual]
  have takes : start (.request (request.map Work.returning)) solo.virtual =
      take ((solo.turn request).map Work.returning fun callback => callback) .serving := by
    have served := solo.debouncer.serve_map (Work.returning : QuietWork τ → Work (Op τ) (Reply τ))
      (fun callback => callback) solo.agenda () request
    rw [start, same]
    exact congrArg (take · .serving) served
  rw [takes, same, take]
  apply coherent.concludes_serve request (fun callback => callback) shows_clock
  · intro debouncer agenda
    rfl
  · intro debouncer agenda tail value
    rfl

theorem concludes_answer (op : Op τ) (store : Store τ) (runs : Runs) (reply : Reply τ) :
    machine.Concludes op (answer store reply) runs reply { store := store, runs := runs } :=
  .finish rfl

theorem sweep_of_idle {store : Store τ} {deadline : τ}
    (idle : store.agenda.fireNext? deadline = none) (count : Nat) :
    sweep store deadline count =
      answer { store with agenda := store.agenda.arrive deadline } (.ok (.count count)) := by
  rw [sweep, idle]

theorem concludes_sweep (coherent : solo.Coherent) (op : Op τ) (deadline : τ) (runs : Runs) :
    ∃ count, machine.Concludes op (sweep solo.virtual deadline 0) runs (.ok (.count count))
      ((solo.sweep deadline runs).map Solo.virtual) := by
  have form := coherent.swept deadline runs
  generalize solo.sweep deadline runs = after at form
  cases form with
  | idle absent =>
      have idle : solo.virtual.agenda.fireNext? deadline = none := absent
      rw [sweep_of_idle idle]
      exact ⟨0, concludes_answer _ _ _ _⟩
  | @fired id timer fired work found held supplied holds =>
      let turn := solo.virtual.firing fired id timer
      let left : Store τ := Solo.virtual ⟨(solo.debouncer.fire fired id).debouncer, fired⟩
      have fires : sweep solo.virtual deadline 0 = take turn fun _ => .advancing deadline 1 := by
        rw [sweep, Solo.virtual, found]
        rfl
      have remains : turn.debouncer = left.debouncer :=
        solo.debouncer.fire_map Work.returning fired fired id
      have holdsWork : turn.debouncer.work = some work.returning := by
        simp [remains, left, Solo.virtual, Debouncer.map, supplied]
      have rest : machine.Concludes op
          (sweep { agenda := fired, debouncer := turn.debouncer } deadline 1)
          (runs.count work.id) (.ok (.count 1))
          { store := { left with agenda := fired.arrive deadline }, runs := runs.count work.id } := by
        rw [remains, sweep_of_idle (holds.fireNext?_eq_none deadline)]
        exact concludes_answer _ _ _ _
      rw [fires]
      exact ⟨1, (solo.virtual.firing_executes fired id timer).concludes shows_clock rfl holdsWork rest⟩

/-- On a virtual clock a step is carried out as told here. -/
theorem carryOut?_virtual (coherent : solo.Coherent) (runs : Runs) (deed : Deed τ) :
    ∀ᶠ fuel in Filter.atTop, carryOut? fuel (solo.virtual, runs) deed =
      some ((solo.carryOut runs deed).1, (solo.carryOut runs deed).2.1.virtual,
        (solo.carryOut runs deed).2.2) := by
  cases deed with
  | request request =>
      let served := (solo.serve request runs).2
      rcases concludes_sweep (coherent.serve request runs) (.advance (.ok Instant.zero))
        (served.store.agenda.now + Instant.zero) served.runs with ⟨count, sweeps⟩
      filter_upwards [(concludes_request coherent request runs).conclude?, sweeps.conclude?] with
        fuel first second
      exact Option.bind_eq_some_iff.mpr ⟨_, first, Option.bind_eq_some_iff.mpr ⟨_, second, rfl⟩⟩
  | move delay =>
      rcases concludes_sweep coherent (.advance (.ok delay)) (solo.agenda.now + delay) runs with
        ⟨count, sweeps⟩
      filter_upwards [sweeps.conclude?] with fuel swept
      exact Option.bind_eq_some_iff.mpr ⟨_, swept, rfl⟩

/-- On a virtual clock a run is seen as told here. -/
theorem sights?_virtual (coherent : solo.Coherent) (runs : Runs) (deeds : List (Deed τ)) :
    ∀ᶠ fuel in Filter.atTop, sights? (carryOut? fuel) (solo.virtual, runs) deeds =
      some (solo.sights runs deeds) := by
  induction deeds generalizing solo runs with
  | nil => exact Filter.Eventually.of_forall fun _ => rfl
  | cons deed rest ih =>
      filter_upwards [carryOut?_virtual coherent runs deed,
        ih (coherent.carryOut runs deed) (solo.carryOut runs deed).2.2] with fuel first later
      exact Option.bind_eq_some_iff.mpr ⟨_, first, Option.bind_eq_some_iff.mpr ⟨_, later, rfl⟩⟩

end DebouncerSession

end Debounce
