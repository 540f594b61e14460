import Debounce.Debouncer.Turn

/-!
# Sessions with one debouncer

A debouncer on a virtual clock of its own. The work it holds may use the same operations.
-/

namespace Debounce.DebouncerSession

/-- The operations of a session. -/
inductive Op (τ : Type) where
  | request (request : Request (Work (Op τ) (Reply τ)))
  | advance (delay : Except Fault τ)
  | now
  /-- Asks for the policy. -/
  | policy
  /-- Asks for the constructor form. -/
  | text

/-- Where an operation goes on after the work has replied. -/
inductive Frame (τ : Type) where
  | serving (tail : Tail τ)
  | advancing (deadline : τ) (fired : Nat)

/-- The state of a session. -/
structure Store (τ : Type) where
  agenda : Agenda τ Unit
  debouncer : Debouncer τ (Work (Op τ) (Reply τ))

variable {τ : Type}

/-- The effect of a section of an operation. -/
abbrev Outcome (τ : Type) := Effect (Op τ) (Reply τ) (Store τ) (Frame τ) (Event τ)

/-- Replies without running anything. -/
def answer (store : Store τ) (reply : Reply τ) : Outcome τ :=
  { store := store, events := [], next := .finish reply }

variable [Instant τ]

/-- Takes over a turn of the debouncer. -/
def take (turn : Turn τ (Agenda τ Unit) (Work (Op τ) (Reply τ))) (frame : Tail τ → Frame τ) :
    Outcome τ :=
  turn.effect [] frame fun debouncer agenda => { agenda := agenda, debouncer := debouncer }

/-- Fires the next timer that is due, or ends the advance. -/
def sweep (store : Store τ) (deadline : τ) (fired : Nat) : Outcome τ :=
  match store.agenda.fireNext? deadline with
  | none => answer { store with agenda := store.agenda.arrive deadline } (.ok (.count fired))
  | some (id, timer, agenda) =>
      let turn := store.debouncer.fire agenda id
      take { turn with events := .timerFired id timer.executionTime :: turn.events }
        fun _ => .advancing deadline (fired + 1)

/-- Begins an operation. -/
def start (op : Op τ) (store : Store τ) : Outcome τ :=
  match op with
  | .request request =>
      take (store.debouncer.serve store.agenda () request) Frame.serving
  | .advance (.error fault) => answer store (.error fault)
  | .advance (.ok delay) => sweep store (store.agenda.now + delay) 0
  | .now => answer store (.ok (.instant store.agenda.now))
  | .policy => answer store (.ok (.policy store.debouncer.settings))
  | .text => answer store (.ok (.value (.text store.debouncer.constructorText)))

/-- Goes on after the work has replied. A failure ends an advance. -/
def resume (frame : Frame τ) (reply : Reply τ) (store : Store τ) : Outcome τ :=
  match frame, reply with
  | .serving tail, reply =>
      let (debouncer, reply) := store.debouncer.finish tail reply
      answer { store with debouncer := debouncer } reply
  | .advancing _ _, .error fault => answer store (.error fault)
  | .advancing deadline fired, .ok _ => sweep store deadline fired

/-- How the operations of a session act. -/
def machine : Machine (Op τ) (Reply τ) (Store τ) (Frame τ) (Event τ) where
  start := start
  resume := resume

/-- A session with the given debouncer, whose clock starts at the given reading. -/
def Store.new (debouncer : Debouncer τ (Work (Op τ) (Reply τ))) (clock : τ) : Store τ :=
  { agenda := { now := clock }, debouncer := debouncer }

end Debounce.DebouncerSession
