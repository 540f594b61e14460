import Debounce.Event
import Debounce.Machine

/-!
# Sessions with a virtual clock

Works are set on an agenda as callbacks of timers. The clock only moves when it is advanced; the
timers that are due then fire one after the other, in the order of their times, and the clock
stands at each timer's time while its work runs. Works may use the same operations.
-/

namespace Debounce.TimerSession

/-- The operations of a session. Delays and times may turn out not to be numbers. -/
inductive Op (τ : Type) where
  | schedule (label : String) (delay : Except Fault τ) (work : Option (Work (Op τ) (Reply τ)))
  | cancel (label : String)
  | reschedule (label : String) (time : Except Fault τ)
  | claim (label : String)
  /-- Runs the callback of a timer whatever its phase. -/
  | fire (label : String)
  | advance (delay : Except Fault τ)
  | now

/-- Where an operation goes on after a work has replied. -/
inductive Frame (τ : Type) where
  | firing
  | advancing (deadline : τ) (fired : Nat)

/-- The state of a session. -/
structure Store (τ : Type) where
  agenda : Agenda τ (Option (Work (Op τ) (Reply τ)))
  labels : Labels := []

variable {τ : Type}

/-- The effect of a section of an operation. -/
abbrev Outcome (τ : Type) := Effect (Op τ) (Reply τ) (Store τ) (Frame τ) (Event τ)

/-- Replies without running anything. -/
def answer (store : Store τ) (reply : Reply τ) (events : List (Event τ) := []) : Outcome τ :=
  { store := store, events := events, next := .finish reply }

/-- Runs the callback of a timer. -/
def runCallback (store : Store τ) (callback : Option (Work (Op τ) (Reply τ))) (frame : Frame τ)
    (events : List (Event τ)) : Outcome τ :=
  match callback with
  | none => answer store (.error .notCallable) events
  | some work =>
      { store := store
        events := events ++ [.ran work.id work.name store.agenda.now []]
        next := .enter frame work {} }

variable [Instant τ]

/-- Fires the next timer that is due, or ends the advance. -/
def sweep (store : Store τ) (deadline : τ) (fired : Nat) : Outcome τ :=
  match store.agenda.fireNext? deadline with
  | none => answer { store with agenda := store.agenda.arrive deadline } (.ok (.count fired))
  | some (id, timer, agenda) =>
      runCallback { store with agenda := agenda } timer.callback
        (.advancing deadline (fired + 1)) [.timerFired id timer.executionTime]

/-- Carries on with the timer under a label, if there is one. -/
def withTimer (store : Store τ) (label : String)
    (use : TimerId → Timer τ (Option (Work (Op τ) (Reply τ))) → Outcome τ) : Outcome τ :=
  match (store.labels.get? label).bind fun id => (store.agenda.get? id).map (id, ·) with
  | none => answer store (.ok .missing)
  | some (id, timer) => use id timer

/-- Begins an operation. -/
def start (op : Op τ) (store : Store τ) : Outcome τ :=
  match op with
  | .schedule _ (.error fault) _ => answer store (.error fault)
  | .schedule label (.ok delay) work? =>
      let (id, agenda) := store.agenda.schedule delay work?
      answer { agenda := agenda, labels := store.labels.insert label id } (.ok .nothing)
  | .cancel label => withTimer store label fun id _ =>
      let (cancelled, agenda) := store.agenda.cancel id
      answer { store with agenda := agenda } (.ok (.flag cancelled))
  | .reschedule label time => withTimer store label fun id _ =>
      match time with
      | .error fault => answer store (.error fault)
      | .ok time => answer { store with agenda := store.agenda.reschedule id time } (.ok .nothing)
  | .claim label => withTimer store label fun id _ =>
      let (claimed, agenda) := store.agenda.claim id
      answer { store with agenda := agenda } (.ok (.flag claimed))
  | .fire label => withTimer store label fun _ timer =>
      runCallback store timer.callback .firing []
  | .advance (.error fault) => answer store (.error fault)
  | .advance (.ok delay) => sweep store (store.agenda.now + delay) 0
  | .now => answer store (.ok (.instant store.agenda.now))

/-- Goes on after a work has replied. A failure ends the operation. -/
def resume (frame : Frame τ) (reply : Reply τ) (store : Store τ) : Outcome τ :=
  match reply, frame with
  | .error fault, _ => answer store (.error fault)
  | .ok _, .firing => answer store (.ok .nothing)
  | .ok _, .advancing deadline fired => sweep store deadline fired

/-- How the operations of a session act. -/
def machine : Machine (Op τ) (Reply τ) (Store τ) (Frame τ) (Event τ) where
  start := start
  resume := resume

/-- A session whose clock starts at the given reading. -/
def Store.new (clock : τ) : Store τ := { agenda := { now := clock } }

end Debounce.TimerSession
