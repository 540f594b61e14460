import Debounce.Debouncer.Turn

/-!
# Sessions on a bench

A debouncer whose clock is set and whose timers are fired, made inactive and made to stick by
hand, so that every order of these with the debouncer's own operations can be played out.
-/

namespace Debounce.BenchSession

/-- The operations of a session. -/
inductive Op (τ : Type) where
  | request (request : Request (Work (Op τ) (Reply τ)))
  | now
  | policy
  | text
  | setClock (time : Except Fault τ)
  | deactivate (id : TimerId)
  | stick (id : TimerId)
  /-- Runs the callback of a timer whatever its phase. -/
  | fire (id : TimerId)

/-- Where an operation goes on after the work has replied. -/
inductive Frame (τ : Type) where
  | serving (tail : Tail τ)
  | firing

/-- The state of a session. -/
structure Store (τ : Type) where
  bench : Bench τ Unit
  debouncer : Debouncer τ (Work (Op τ) (Reply τ))

variable {τ : Type}

/-- The effect of a section of an operation. -/
abbrev Outcome (τ : Type) := Effect (Op τ) (Reply τ) (Store τ) (Frame τ) (Event τ)

/-- Replies without running anything. -/
def answer (store : Store τ) (reply : Reply τ) : Outcome τ :=
  { store := store, events := [], next := .finish reply }

/-- Changes the bench if it has the timer. -/
def adjust (store : Store τ) (id : TimerId) (bench : Bench τ Unit) : Outcome τ :=
  match store.bench.agenda.get? id with
  | none => answer store (.ok .missing)
  | some _ => answer { store with bench := bench } (.ok .nothing)

variable [Instant τ]

/-- Takes over a turn of the debouncer. -/
def take (turn : Turn τ (Bench τ Unit) (Work (Op τ) (Reply τ))) (frame : Tail τ → Frame τ) :
    Outcome τ :=
  turn.effect [] frame fun debouncer bench => { bench := bench, debouncer := debouncer }

/-- Begins an operation. -/
def start (op : Op τ) (store : Store τ) : Outcome τ :=
  match op with
  | .request request =>
      take (store.debouncer.serve store.bench () request) Frame.serving
  | .now => answer store (.ok (.instant store.bench.agenda.now))
  | .policy => answer store (.ok (.policy store.debouncer.settings))
  | .text => answer store (.ok (.value (.text store.debouncer.constructorText)))
  | .setClock (.error fault) => answer store (.error fault)
  | .setClock (.ok time) =>
      answer { store with bench := store.bench.setClock time } (.ok .nothing)
  | .deactivate id => adjust store id (store.bench.deactivate id)
  | .stick id => adjust store id (store.bench.stick id)
  | .fire id => match store.bench.agenda.get? id with
      | none => answer store (.ok .missing)
      | some _ => take (store.debouncer.fire store.bench id) fun _ => .firing

/-- Goes on after the work has replied. -/
def resume (frame : Frame τ) (reply : Reply τ) (store : Store τ) : Outcome τ :=
  match frame, reply with
  | .serving tail, reply =>
      let (debouncer, reply) := store.debouncer.finish tail reply
      answer { store with debouncer := debouncer } reply
  | .firing, .error fault => answer store (.error fault)
  | .firing, .ok _ => answer store (.ok .nothing)

/-- How the operations of a session act. -/
def machine : Machine (Op τ) (Reply τ) (Store τ) (Frame τ) (Event τ) where
  start := start
  resume := resume

/-- A session with the given debouncer, whose clock starts at the given reading. -/
def Store.new (debouncer : Debouncer τ (Work (Op τ) (Reply τ))) (clock : τ) : Store τ :=
  { bench := { agenda := { now := clock } }, debouncer := debouncer }

end Debounce.BenchSession
