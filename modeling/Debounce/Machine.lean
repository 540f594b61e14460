import Debounce.Script

/-!
# Machines

A machine says how operations act on a store. An operation either finishes at once or runs a work
first, and goes on when the work has replied; while the work runs the operation is suspended. The
state of a run is therefore a store, the script that is running and a stack of suspended
operations, and the states between two steps are those that running works see.
-/

namespace Debounce

/-- How a section of an operation ends. -/
inductive Next (Op R Frame : Type) where
  /-- The operation is over. -/
  | finish (reply : R)
  /-- A work runs, and the operation goes on at the frame with its reply. -/
  | enter (frame : Frame) (work : Work Op R) (arguments : Arguments)
  /-- The operation goes on at the frame with the given reply. -/
  | skip (frame : Frame) (reply : R)

/-- The effect of a section of an operation. -/
structure Effect (Op R Store Frame Event : Type) where
  store : Store
  events : List Event
  next : Next Op R Frame

/-- The effect with its events seen through a function. -/
def Effect.mapEvents {Op R Store Frame Event Event' : Type} (view : Event → Event')
    (effect : Effect Op R Store Frame Event) : Effect Op R Store Frame Event' :=
  { store := effect.store, events := effect.events.map view, next := effect.next }

/-- How operations begin, and how they go on after a work has replied. -/
structure Machine (Op R Store Frame Event : Type) where
  start : Op → Store → Effect Op R Store Frame Event
  resume : Frame → R → Store → Effect Op R Store Frame Event

/-- What a run records: the begin and the end of each operation, with the number of operations
that are suspended around it, and the events in between. -/
inductive Moment (Op R Event : Type) where
  | began (op : Op) (depth : Nat)
  | event (event : Event)
  | ended (op : Op) (reply : R) (depth : Nat)

/-- An operation that waits for a work, and what the script around it does with its reply. -/
structure Suspended (Op R Frame : Type) where
  op : Op
  frame : Frame
  next : R → Script Op R

/-- The state of a run. -/
structure Config (Op R Store Frame Event : Type) where
  store : Store
  runs : Runs := Runs.none
  script : Script Op R
  stack : List (Suspended Op R Frame) := []
  trace : List (Moment Op R Event) := []

namespace Machine

variable {Op R Store Frame Event : Type}

/-- Takes over the effect of a section of the operation `op`, for which the script around it waits
at `next`. -/
def settle (config : Config Op R Store Frame Event) (op : Op) (next : R → Script Op R)
    (effect : Effect Op R Store Frame Event) : Config Op R Store Frame Event :=
  let config :=
    { config with
      store := effect.store
      trace := config.trace ++ effect.events.map Moment.event }
  match effect.next with
  | .finish reply =>
      { config with
        script := next reply
        trace := config.trace ++ [.ended op reply config.stack.length] }
  | .enter frame work arguments =>
      { config with
        runs := config.runs.count work.id
        script := work.body arguments
        stack := ⟨op, frame, next⟩ :: config.stack }
  | .skip frame reply =>
      { config with script := .done reply, stack := ⟨op, frame, next⟩ :: config.stack }

/-- The next state of a run; there is none when the outermost script has ended. -/
def step? (machine : Machine Op R Store Frame Event) (config : Config Op R Store Frame Event) :
    Option (Config Op R Store Frame Event) :=
  match config.script with
  | .step op next =>
      let config := { config with trace := config.trace ++ [.began op config.stack.length] }
      some (settle config op next (machine.start op config.store))
  | .runs work next => some { config with script := next (config.runs work) }
  | .done reply => match config.stack with
      | [] => none
      | ⟨op, frame, next⟩ :: rest =>
          let config := { config with stack := rest }
          some (settle config op next (machine.resume frame reply config.store))

/-- The states that a run can get to. -/
inductive Reaches (machine : Machine Op R Store Frame Event)
    (first : Config Op R Store Frame Event) : Config Op R Store Frame Event → Prop where
  | refl : Reaches machine first first
  | step {middle last : Config Op R Store Frame Event} :
      Reaches machine first middle → machine.step? middle = some last →
      Reaches machine first last

/-- Runs for at most the given number of steps. -/
def run (machine : Machine Op R Store Frame Event) (fuel : Nat)
    (config : Config Op R Store Frame Event) : Config Op R Store Frame Event :=
  match fuel with
  | 0 => config
  | fuel + 1 => match machine.step? config with
      | none => config
      | some config => machine.run fuel config

/-- The outcome of a single operation: its reply, what it leaves and what it recorded. -/
structure Performed (Op R Store Event : Type) where
  reply : R
  store : Store
  runs : Runs
  trace : List (Moment Op R Event)

/-- Performs a single operation within the given number of steps. -/
def perform? (machine : Machine Op R Store Frame Event) (fuel : Nat) (op : Op) (store : Store)
    (runs : Runs) : Option (Performed Op R Store Event) :=
  let last := machine.run fuel { store := store, runs := runs, script := .perform op }
  match last.script, last.stack with
  | .done reply, [] => some ⟨reply, last.store, last.runs, last.trace⟩
  | _, _ => none

end Machine

end Debounce
