import Debounce.Debouncer.Turn
import Debounce.Environment.Cache

/-!
# Sessions with a background pool

Timers whose callbacks run on the pool of background workers, in the context that was bound where
and when the timer was set. The clock is moved by hand. Timers that have expired begin to fire
when the session settles: each is handed to the pool, runs to its end, and a failure is reported
and goes no further. If the pool cannot be made the callback does not run, which is reported too.
-/

namespace Debounce.BackgroundSession

/-- How a background computation ended. -/
inductive Ending where
  | cancelled
  | result
  | failed (fault : Fault)

/-- The operations of a session. -/
inductive Op (τ : Type) where
  | schedule (label : String) (delay : Except Fault τ) (work : Option (Work (Op τ) (Reply τ)))
  | cancel (label : String)
  | reschedule (label : String) (time : Except Fault τ)
  | now
  | setClock (time : Except Fault τ)
  | request (request : Request (Work (Op τ) (Reply τ)))
  | bind (bindings : Fields)
  | clearContext
  /-- Does chores of the process, one after the other. -/
  | tidy (chores : List Process.Chore)
  /-- Runs a work on the pool and waits for it. -/
  | submit (work : Option (Work (Op τ) (Reply τ))) (arguments : Arguments)
  /-- Reports how a background computation ended, if it failed. -/
  | report (ending : Ending)
  /-- Lets every expired timer fire. -/
  | settle

/-- What a timer is to do. -/
inductive Task (τ : Type) where
  | debouncer
  | work (work : Option (Work (Op τ) (Reply τ)))

/-- The callback of a timer: a task, and the context to do it in. -/
structure Deferred (τ : Type) where
  context : Fields
  task : Task τ

/-- Where an operation goes on after a work has replied. What ran on the pool leaves the context to
return to, and a timer that was handed over is noted as well. -/
inductive Frame (τ : Type) where
  | serving (tail : Tail τ)
  | settling (timer : Option TimerId) (context : Fields)
  | submitted (context : Fields)

/-- The state of a session. -/
structure Store (τ : Type) where
  agenda : Agenda τ (Deferred τ)
  debouncer : Option (Debouncer τ (Work (Op τ) (Reply τ))) := none
  labels : Labels := []
  context : Fields := []
  process : Process := {}

variable {τ : Type}

/-- The effect of a section of an operation. -/
abbrev Outcome (τ : Type) := Effect (Op τ) (Reply τ) (Store τ) (Frame τ) (Event τ)

/-- Replies without running anything. -/
def answer (store : Store τ) (reply : Reply τ) (events : List (Event τ) := []) : Outcome τ :=
  { store := store, events := events, next := .finish reply }

/-- Goes on at a frame without running anything. -/
def skip (store : Store τ) (frame : Frame τ) (reply : Reply τ) (events : List (Event τ)) :
    Outcome τ :=
  { store := store, events := events, next := .skip frame reply }

/-- Runs a work in the current context. -/
def runWork (store : Store τ) (work? : Option (Work (Op τ) (Reply τ))) (arguments : Arguments)
    (frame : Frame τ) (events : List (Event τ)) : Outcome τ :=
  match work? with
  | none => skip store frame (.error .notCallable) events
  | some work =>
      { store := store
        events := events ++ [.ran work.id work.name store.agenda.now store.context]
        next := .enter frame work arguments }

variable [Instant τ]

/-- Takes over a turn of the debouncer. -/
def take (store : Store τ) (turn : Turn τ (Agenda τ (Deferred τ)) (Work (Op τ) (Reply τ)))
    (frame : Tail τ → Frame τ) : Outcome τ :=
  turn.effect store.context frame fun debouncer agenda =>
    { store with agenda := agenda, debouncer := some debouncer }

/-- Does the task of a timer in the current context, on the pool. -/
def runTask (store : Store τ) (id : TimerId) (task : Task τ) (frame : Frame τ) : Outcome τ :=
  match task, store.debouncer with
  | .work work?, _ => runWork store work? {} frame [.handedOver id]
  | .debouncer, some debouncer =>
      let turn := debouncer.fire store.agenda id
      take store { turn with events := .handedOver id :: turn.events } fun _ => frame
  | .debouncer, none => skip store frame (.error .notCallable) [.handedOver id]

/-- Lets the next expired timer fire, or ends the settling. -/
def settle (store : Store τ) : Outcome τ :=
  match store.agenda.expireNext? with
  | none => answer store (.ok .nothing)
  | some (id, timer, agenda) => match store.process.executor with
      | (.error fault, process) =>
          skip { store with agenda := agenda, process := process } (.settling none store.context)
            (.ok .nothing) [.handOverFailed id timer.executionTime fault]
      | (.ok _, process) =>
          runTask
            { store with agenda := agenda, process := process, context := timer.callback.context }
            id timer.callback.task (.settling (some id) store.context)

/-- The event that reports a failure. -/
def failure (timer : Option TimerId) : Reply τ → List (Event τ)
  | .ok _ => []
  | .error fault => [.workFailed timer fault]

/-- Carries on with the timer under a label, if there is one. -/
def withTimer (store : Store τ) (label : String) (use : TimerId → Outcome τ) : Outcome τ :=
  match store.labels.get? label with
  | none => answer store (.ok .missing)
  | some id => use id

/-- Runs a work on the pool. The argument named `context` is not for the work but says where it
runs: `null` stands for the current context, and no other value is a context. -/
def submit (store : Store τ) (work? : Option (Work (Op τ) (Reply τ))) (arguments : Arguments)
    (frame : Frame τ) : Outcome τ :=
  match Value.field? arguments.named "context" with
  | none | some .null =>
      runWork store work? { arguments with named := Fields.erase arguments.named "context" } frame []
  | some value => skip store frame (.error (.noAttribute value.kindName "run")) []

/-- Begins an operation. -/
def start (op : Op τ) (store : Store τ) : Outcome τ :=
  match op with
  | .schedule _ (.error fault) _ => answer store (.error fault)
  | .schedule label (.ok delay) work? =>
      let task := Task.work work?
      let (id, agenda) := store.agenda.schedule delay ⟨store.context, task⟩
      answer { store with agenda := agenda, labels := store.labels.insert label id }
        (.ok .nothing)
  | .cancel label => withTimer store label fun id =>
      let (cancelled, agenda) := store.agenda.cancel id
      answer { store with agenda := agenda } (.ok (.flag cancelled))
  | .reschedule label time => withTimer store label fun id =>
      match time with
      | .error fault => answer store (.error fault)
      | .ok time => answer { store with agenda := store.agenda.reschedule id time } (.ok .nothing)
  | .now => answer store (.ok (.instant store.agenda.now))
  | .setClock (.error fault) => answer store (.error fault)
  | .setClock (.ok time) =>
      answer { store with agenda := { store.agenda with now := time } } (.ok .nothing)
  | .request request => match store.debouncer with
      | none => answer store (.ok .missing)
      | some debouncer =>
          take store
            (debouncer.serve store.agenda ⟨store.context, .debouncer⟩ request)
            Frame.serving
  | .bind bindings =>
      answer { store with context := store.context.merge bindings } (.ok .nothing)
  | .clearContext => answer { store with context := [] } (.ok .nothing)
  | .tidy chores =>
      answer { store with process := chores.foldl Process.tidy store.process } (.ok .nothing)
  | .submit work? arguments => match store.process.executor with
      | (.error fault, process) => answer { store with process := process } (.error fault)
      | (.ok _, process) =>
          submit { store with process := process } work? arguments (.submitted store.context)
  | .report .cancelled | .report .result => answer store (.ok .nothing)
  | .report (.failed fault) => answer store (.ok .nothing) [.workFailed none fault]
  | .settle => settle store

/-- Goes on after a work has replied. What the work bound is forgotten if it ran on the pool. -/
def resume (frame : Frame τ) (reply : Reply τ) (store : Store τ) : Outcome τ :=
  match frame with
  | .serving tail => match store.debouncer with
      | none => answer store reply
      | some debouncer =>
          let (debouncer, reply) := debouncer.finish tail reply
          answer { store with debouncer := some debouncer } reply
  | .settling timer context =>
      let outcome := settle { store with context := context }
      { outcome with events := failure timer reply ++ outcome.events }
  | .submitted context => answer { store with context := context } reply (failure none reply)

/-- How the operations of a session act. -/
def machine : Machine (Op τ) (Reply τ) (Store τ) (Frame τ) (Event τ) where
  start := start
  resume := resume

/-- A session without a debouncer. The pool is made first, so that bad settings show at once. -/
def Store.create (clock : τ) (environment : Environment) : Except Fault (Store τ) :=
  match Process.executor { environment := environment } with
  | (.ok _, process) => .ok { agenda := { now := clock }, process := process }
  | (.error fault, _) => .error fault

/-- The session with a debouncer whose policy is read from its parts. -/
def Store.withDebouncer (store : Store τ) (interval leading idleTime name : Value) :
    Except Fault (Store τ) :=
  match Debouncer.create interval leading idleTime name store.agenda.now with
  | .ok debouncer => .ok { store with debouncer := some debouncer }
  | .error fault => .error fault

end Debounce.BackgroundSession
