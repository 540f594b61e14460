import Debounce.Debouncer
import Debounce.Event
import Debounce.Machine

/-!
# Turns of a debouncer

Each operation of a debouncer is a turn under its lock: it changes the debouncer and its scheduler
and then either replies or asks for the held work to be run, which goes on under the same lock.
When the work has replied, the tail of the operation ends it.
-/

namespace Debounce

/-- What remains of an operation once the work it runs has returned. -/
inductive Tail (τ : Type) where
  /-- The operation replies what the work replied. -/
  | passOn
  /-- The call is recorded, and the operation replies nothing. -/
  | record (call : τ)
  /-- The operation replies that there was something to flush. -/
  | flushed

/-- How a turn ends. -/
inductive Demand (τ : Type) where
  | reply (reply : Reply τ)
  | execute (tail : Tail τ)

/-- The outcome of a turn. -/
structure Turn (τ σ ω : Type) where
  debouncer : Debouncer τ ω
  scheduler : σ
  events : List (Event τ) := []
  demand : Demand τ

/-- The operations of a debouncer. -/
inductive Request (ω : Type) where
  | call (work : Option ω)
  | callNow
  | reset
  | flush

namespace Debouncer

variable {τ σ κ ω : Type} [Instant τ]

/-- Ends a turn by asking for the held work. -/
def execute (debouncer : Debouncer τ ω) (scheduler : σ) (cause : Cause) (tail : Tail τ) :
    Turn τ σ ω where
  debouncer := debouncer
  scheduler := scheduler
  events := [.executed debouncer.name cause]
  demand := .execute tail

/-- Ends the turn of a call that runs nothing. -/
def recorded (debouncer : Debouncer τ ω) (scheduler : σ) (now : τ) (events : List (Event τ)) :
    Turn τ σ ω where
  debouncer := { debouncer with lastCall := some now }
  scheduler := scheduler
  events := events
  demand := .reply (.ok .nothing)

/-- A call on the leading edge. -/
def leadingEdge (debouncer : Debouncer τ ω) (scheduler : σ) (now : τ) : Turn τ σ ω :=
  if debouncer.tooSoon now then debouncer.recorded scheduler now []
  else if debouncer.idle now || debouncer.maxIntervalReached now then
    execute { debouncer with leadingTimestamp := some now } scheduler .call (.record now)
  else debouncer.recorded scheduler now []

variable [Scheduler σ τ κ]

/-- What can be seen of the debouncer's timer. -/
def timerStatus? (debouncer : Debouncer τ ω) (scheduler : σ) : Option (Timer.Status τ) :=
  debouncer.timer.bind (Scheduler.status? scheduler)

/-- An execution is scheduled. -/
def pending (debouncer : Debouncer τ ω) (scheduler : σ) : Bool :=
  (debouncer.timerStatus? scheduler).any Timer.Status.active

/-- A call on the trailing edge that starts a period. -/
def startTimer (debouncer : Debouncer τ ω) (scheduler : σ) (callback : κ) (now : τ) :
    Turn τ σ ω :=
  let delay := debouncer.firstDelay now
  let (id, scheduler) := Scheduler.schedule scheduler delay callback
  recorded { debouncer with leadingTimestamp := some now, timer := some id } scheduler now
    [.timerStarted debouncer.name delay]

/-- A call on the trailing edge within a period: the work runs at once if its time has come, and
the timer is only ever moved to a later time. A timer that has begun to fire runs the work
itself. -/
def extendTimer (debouncer : Debouncer τ ω) (scheduler : σ) (id : TimerId) (time stamp now : τ) :
    Turn τ σ ω :=
  let target := debouncer.extension stamp now
  if target ≤ now then
    match Scheduler.cancel scheduler id with
    | (true, scheduler) =>
        execute { debouncer with timer := none } scheduler .call (.record now)
    | (false, scheduler) => debouncer.recorded scheduler now []
  else if time < target then
    debouncer.recorded (Scheduler.reschedule scheduler id target) now
      [.timerMoved debouncer.name target]
  else debouncer.recorded scheduler now []

/-- A call on the trailing edge. A timer that is no longer active has begun to fire, so the call
starts a new period. -/
def trailingEdge (debouncer : Debouncer τ ω) (scheduler : σ) (callback : κ) (now : τ) :
    Turn τ σ ω :=
  match debouncer.timer, debouncer.timerStatus? scheduler, debouncer.leadingTimestamp with
  | some id, some ⟨true, time⟩, some stamp => debouncer.extendTimer scheduler id time stamp now
  | _, _, _ => debouncer.startTimer scheduler callback now

/-- Debounces a call, with new work if some is given. -/
def call (debouncer : Debouncer τ ω) (scheduler : σ) (callback : κ) (work? : Option ω) :
    Turn τ σ ω :=
  match work?.or debouncer.work with
  | none =>
      { debouncer := debouncer, scheduler := scheduler, demand := .reply (.error .noWork) }
  | some work =>
      let debouncer := { debouncer with work := some work }
      if debouncer.settings.passthrough then debouncer.execute scheduler .call .passOn
      else
        let now := Scheduler.now scheduler
        if debouncer.settings.leading then debouncer.leadingEdge scheduler now
        else debouncer.trailingEdge scheduler callback now

/-- Runs the held work at once, whatever the policy. -/
def callNow (debouncer : Debouncer τ ω) (scheduler : σ) : Turn τ σ ω :=
  match debouncer.work with
  | none =>
      { debouncer := debouncer, scheduler := scheduler, demand := .reply (.error .noWork) }
  | some _ => debouncer.execute scheduler .callNow .passOn

/-- Starts a new period and drops the execution that was scheduled. -/
def reset (debouncer : Debouncer τ ω) (scheduler : σ) : Turn τ σ ω :=
  let (cancelled, scheduler) := match debouncer.timer with
    | none => (false, scheduler)
    | some id => Scheduler.cancel scheduler id
  { debouncer := rewound { debouncer with timer := none } (Scheduler.now scheduler)
    scheduler := scheduler
    events := if cancelled then [.wasReset debouncer.name] else []
    demand := .reply (.ok (.flag cancelled)) }

/-- Runs the held work at once if an execution was scheduled. -/
def flush (debouncer : Debouncer τ ω) (scheduler : σ) : Turn τ σ ω :=
  match debouncer.timer with
  | none =>
      { debouncer := debouncer
        scheduler := scheduler
        demand := .reply (.ok (.flag false)) }
  | some id => match Scheduler.cancel scheduler id with
      | (true, scheduler) => execute { debouncer with timer := none } scheduler .flush .flushed
      | (false, scheduler) =>
          { debouncer := debouncer
            scheduler := scheduler
            demand := .reply (.ok (.flag false)) }

/-- The callback of a timer: runs the held work, and leaves a newer timer alone. -/
def fire (debouncer : Debouncer τ ω) (scheduler : σ) (id : TimerId) : Turn τ σ ω :=
  let debouncer :=
    if debouncer.timer = some id then { debouncer with timer := none } else debouncer
  debouncer.execute scheduler (.timer id) .passOn

/-- Carries out a request. -/
def serve (debouncer : Debouncer τ ω) (scheduler : σ) (callback : κ) (request : Request ω) :
    Turn τ σ ω :=
  match request with
  | .call work? => debouncer.call scheduler callback work?
  | .callNow => debouncer.callNow scheduler
  | .reset => debouncer.reset scheduler
  | .flush => debouncer.flush scheduler

/-- Ends an operation after the work it ran has replied; a failure of the work is passed on and
leaves the debouncer as it is. -/
def finish (debouncer : Debouncer τ ω) (tail : Tail τ) (reply : Reply τ) :
    Debouncer τ ω × Reply τ :=
  match tail, reply with
  | .passOn, reply => (debouncer, reply)
  | _, .error fault => (debouncer, .error fault)
  | .record call, .ok _ => ({ debouncer with lastCall := some call }, .ok .nothing)
  | .flushed, .ok _ => (debouncer, .ok (.flag true))

end Debouncer

namespace Turn

variable {τ σ κ Op Store Frame : Type} [Instant τ] [Scheduler σ τ κ]

/-- The effect of a turn within a larger store. If the turn asks for the held work it runs, and
the operation goes on at the frame that is chosen for the tail. -/
def effect (turn : Turn τ σ (Work Op (Reply τ))) (context : Fields) (frame : Tail τ → Frame)
    (put : Debouncer τ (Work Op (Reply τ)) → σ → Store) :
    Effect Op (Reply τ) Store Frame (Event τ) :=
  let store := put turn.debouncer turn.scheduler
  match turn.demand with
  | .reply reply => { store := store, events := turn.events, next := .finish reply }
  | .execute tail => match turn.debouncer.work with
      | none => { store := store, events := turn.events, next := .finish (.error .notCallable) }
      | some work =>
          { store := store
            events := turn.events ++ [.ran work.id work.name (Scheduler.now turn.scheduler) context]
            next := .enter (frame tail) work {} }

end Turn

end Debounce
