import Debounce.Proofs.History

/-!
# Timers that fire while the debouncer acts

On a scheduler with threads a timer begins to fire at any moment, and its callback then waits for
the lock of the debouncer. A timer may in particular begin to fire after an operation has looked
at it and before the operation cancels or moves it. The scheduler of this module has such timers:
from the moment at which a timer begins to fire it is inactive, and its callback is waiting until
somebody runs it.
-/

namespace Debounce

/-- Timers on a clock, some of which have begun to fire. -/
structure Race (τ : Type) where
  agenda : Agenda τ Unit
  /-- The timers that begin to fire just before the scheduler is next made to change a timer. -/
  imminent : List TimerId := []
  /-- The timers that have begun to fire and whose callbacks have not run yet. -/
  waiting : List TimerId := []

namespace Race

variable {τ : Type}

/-- A pending timer begins to fire. -/
def begin (race : Race τ) (id : TimerId) : Race τ :=
  let (claimed, agenda) := race.agenda.claim id
  { race with
    agenda := agenda
    waiting := if claimed then race.waiting ++ [id] else race.waiting }

/-- The given timers are about to begin firing. -/
def overtakenBy (race : Race τ) (ids : List TimerId) : Race τ := { race with imminent := ids }

/-- The callback of a timer stops waiting, and no timer is about to begin firing. -/
def leave (race : Race τ) (id : TimerId) : Race τ :=
  { race with imminent := [], waiting := race.waiting.erase id }

/-- The timers that are about to fire begin to. -/
def settle (race : Race τ) : Race τ :=
  { race.imminent.foldl begin race with imminent := [] }

instance [Instant τ] : Scheduler (Race τ) τ Unit where
  now race := race.agenda.now
  schedule race delay callback :=
    let (id, agenda) := race.settle.agenda.schedule delay callback
    (id, { race.settle with agenda := agenda })
  status? race id := Scheduler.status? race.agenda id
  cancel race id :=
    let (cancelled, agenda) := race.settle.agenda.cancel id
    (cancelled, { race.settle with agenda := agenda })
  reschedule race id time :=
    { race.settle with agenda := race.settle.agenda.reschedule id time }

/-- What holds of the timers whenever one of them begins to fire holds after the race. -/
theorem settle_keeps {race : Race τ} (Inv : Agenda τ Unit → List TimerId → Prop)
    (kept : ∀ (race : Race τ) (id : TimerId), Inv race.agenda race.waiting →
      Inv (race.begin id).agenda (race.begin id).waiting)
    (initial : Inv race.agenda race.waiting) : Inv race.settle.agenda race.settle.waiting := by
  rw [settle]
  generalize race.imminent = ids
  induction ids generalizing race with
  | nil => exact initial
  | cons id rest ih => exact ih (kept race id initial)

@[simp] theorem now_settle (race : Race τ) : race.settle.agenda.now = race.agenda.now :=
  settle_keeps (fun agenda _ => agenda.now = race.agenda.now)
    (fun other id same => by simpa [begin, Agenda.claim] using same) rfl

/-! ## Promises -/

/-- An execution is still to come: a callback waits, or the timer that is held is pending. -/
def Promised (held : Option TimerId) (race : Race τ) : Prop :=
  race.waiting ≠ [] ∨ race.agenda.Promised held

theorem promised_begin {held : Option TimerId} {race : Race τ} (id : TimerId)
    (promised : Promised held race) : Promised held (race.begin id) := by
  rcases promised with waits | ⟨other, same, pending⟩
  · refine .inl ?_
    simp only [begin]
    split
    · simp
    · exact waits
  · by_cases overtaken : other = id
    · refine .inl ?_
      have claimed : (race.agenda.claim id).1 = true := by
        rw [Agenda.claim_outcome, ← overtaken, pending]
      simp [begin, claimed]
    · refine .inr ⟨other, same, ?_⟩
      simp [begin, Agenda.isPending_claim, pending, overtaken]

/-- A debouncer is pending in a race when it is pending on the agenda. -/
theorem pending_iff [Instant τ] {ω : Type} {debouncer : Debouncer τ ω} {race : Race τ} :
    debouncer.pending race = true ↔ race.agenda.Promised debouncer.timer :=
  Debouncer.pending_iff

/-- A promise outlives the timers that begin to fire. -/
theorem promised_settle {held : Option TimerId} {race : Race τ} (promised : Promised held race) :
    Promised held race.settle :=
  settle_keeps (fun agenda waiting => waiting ≠ [] ∨ agenda.Promised held)
    (fun _ id => promised_begin id) promised

theorem promise [Instant τ] : Debouncer.Promise (Promised (τ := τ)) where
  scheduled race delay callback := .inr (Agenda.promise.scheduled race.settle.agenda delay callback)
  active race id time status := .inr (Agenda.promise.active race.agenda id time status)
  refused _ id promised refused :=
    (promised_settle promised).imp_right fun still => Agenda.promise.refused _ id still refused
  moved _ id time promised :=
    (promised_settle promised).imp_right fun still => Agenda.promise.moved _ id time still

/-! ## Before the first timer -/

/-- No timer was ever set. -/
def Idle (race : Race τ) : Prop := race.agenda.timers = [] ∧ race.waiting = []

theorem idle_settle {race : Race τ} (idle : race.Idle) : race.settle.Idle := by
  refine settle_keeps (fun agenda waiting => agenda.timers = [] ∧ waiting = []) ?_ idle
  rintro ⟨agenda, imminent, waiting⟩ id ⟨unset, quiet⟩
  simp_all [begin, Agenda.claim, Agenda.update]

variable [Instant τ] {race : Race τ}

theorem cancel_of_idle (idle : race.Idle) (id : TimerId) :
    (Scheduler.cancel race id).1 = false ∧ (Scheduler.cancel race id).2.Idle := by
  rcases idle_settle idle with ⟨unset, quiet⟩
  change (race.settle.agenda.cancel id).1 = false ∧
    (race.settle.agenda.cancel id).2.timers = [] ∧ race.settle.waiting = []
  simp [Agenda.cancel, Agenda.update, unset, quiet]

end Race

/-! ## Sessions -/

namespace RaceSession

/-- The operations of a session. -/
inductive Op (τ : Type) where
  /-- Makes a request to the debouncer, which some timers overtake. -/
  | request (request : Request (Work (Op τ) (Reply τ))) (overtaking : List TimerId)
  /-- A timer begins to fire. -/
  | begin (id : TimerId)
  /-- Runs the callback of a timer that has begun to fire, if it is still waiting. -/
  | callback (id : TimerId)
  | setClock (time : τ)

/-- Where an operation goes on after the work has replied. -/
inductive Frame (τ : Type) where
  | serving (tail : Tail τ)
  | firing

/-- The state of a session. -/
structure Store (τ : Type) where
  race : Race τ
  debouncer : Debouncer τ (Work (Op τ) (Reply τ))

variable {τ : Type}

/-- The effect of a section of an operation. -/
abbrev Outcome (τ : Type) := Effect (Op τ) (Reply τ) (Store τ) (Frame τ) (Event τ)

/-- A state of a run of a session. -/
abbrev State (τ : Type) := Config (Op τ) (Reply τ) (Store τ) (Frame τ) (Event τ)

/-- What the run of a session has recorded. -/
abbrev History (τ : Type) := List (Moment (Op τ) (Reply τ) (Event τ))

/-- Replies without running anything. -/
def answer (store : Store τ) (reply : Reply τ) : Outcome τ :=
  { store := store, events := [], next := .finish reply }

variable [Instant τ]

/-- Takes over a turn of the debouncer. The timers that were to overtake it have begun to fire when
it ends. -/
def take (turn : Turn τ (Race τ) (Work (Op τ) (Reply τ))) (frame : Tail τ → Frame τ) : Outcome τ :=
  turn.effect [] frame fun debouncer race => { race := race.settle, debouncer := debouncer }

/-- Begins an operation. -/
def start (op : Op τ) (store : Store τ) : Outcome τ :=
  match op with
  | .request request overtaking =>
      take (store.debouncer.serve (store.race.overtakenBy overtaking) () request) Frame.serving
  | .begin id => answer { store with race := store.race.begin id } (.ok .nothing)
  | .callback id =>
      if id ∈ store.race.waiting then
        take (store.debouncer.fire (store.race.leave id) id) fun _ => .firing
      else answer store (.ok .missing)
  | .setClock time =>
      answer
        { store with race := { store.race with agenda := { store.race.agenda with now := time } } }
        (.ok .nothing)

/-- Goes on after the work has replied. -/
def resume (frame : Frame τ) (reply : Reply τ) (store : Store τ) : Outcome τ :=
  match frame, reply with
  | .serving tail, reply =>
      let (debouncer, reply) := store.debouncer.finish tail reply
      answer { store with debouncer := debouncer } reply
  | .firing, .error fault => answer store (.error fault)
  | .firing, .ok _ => answer store (.ok .nothing)

/-- How the operations of a session act. -/
def machine : Machine (Op τ) (Reply τ) (Store τ) (Frame τ) (Event τ) where
  start := start
  resume := resume

/-- The first state of a session with a new debouncer, whose clock starts at the given reading. -/
def State.initial (settings : Settings) (name : Value) (clock : τ)
    (script : Script (Op τ) (Reply τ)) : State τ where
  store := { race := { agenda := { now := clock } }, debouncer := .new settings name clock }
  script := script

instance : Requesting (Op τ) (Reply τ) where
  request?
    | .request request _ => some request
    | .begin _ | .callback _ | .setClock _ => none

end RaceSession

end Debounce
