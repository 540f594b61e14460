import Debounce.Registry

/-!
# Sessions with a registry

A registry of debouncers that share one virtual clock. The works they hold may use the same
operations.
-/

namespace Debounce.RegistrySession

/-- The operations of a session. -/
inductive Op (τ : Type) where
  | guarded (guard : Guard) (key : Value) (work : Option (Work (Op τ) (Reply τ)))
  | reset (key : Value)
  | flush (key : Value)
  | discard (key : Value)
  | clear
  | contains (key : Value)
  /-- Asks for the key that a work has of itself. -/
  | workKey (work : Option (Work (Op τ) (Reply τ)))
  | get (key : Value)
  /-- Calls the debouncer under a key, if there is one. -/
  | call (key : Value) (work : Option (Work (Op τ) (Reply τ)))
  | advance (delay : Except Fault τ)
  | now

/-- Where an operation goes on after a work has replied. -/
inductive Frame (τ : Type) where
  | serving (id : DebouncerId) (tail : Tail τ)
  | advancing (deadline : τ) (fired : Nat)

/-- The state of a session. -/
structure Store (τ : Type) where
  agenda : Agenda τ DebouncerId
  registry : Registry τ (Work (Op τ) (Reply τ)) := {}

/-- An event, and the debouncer that it is about. -/
structure Notice (τ : Type) where
  debouncer : DebouncerId
  event : Event τ

variable {τ : Type}

/-- The effect of a section of an operation. -/
abbrev Outcome (τ : Type) := Effect (Op τ) (Reply τ) (Store τ) (Frame τ) (Notice τ)

/-- Replies without running anything. -/
def answer (store : Store τ) (reply : Reply τ) (events : List (Notice τ) := []) : Outcome τ :=
  { store := store, events := events, next := .finish reply }

variable [Instant τ]

/-- Takes over a turn of a debouncer, with the events that came before it. -/
def take (store : Store τ) (id : DebouncerId)
    (turn : Turn τ (Agenda τ DebouncerId) (Work (Op τ) (Reply τ))) (frame : Tail τ → Frame τ)
    (events : List (Event τ)) : Outcome τ :=
  let effect := Turn.effect { turn with events := events ++ turn.events } [] frame
    fun debouncer agenda => { agenda := agenda, registry := store.registry.set id debouncer }
  effect.mapEvents (Notice.mk id)

/-- Lets a debouncer serve a request. -/
def serve (store : Store τ) (id : DebouncerId)
    (request : Request (Work (Op τ) (Reply τ))) (events : List (Event τ)) : Outcome τ :=
  match store.registry.debouncer? id with
  | none => answer store (.ok .missing)
  | some debouncer =>
      take store id (debouncer.serve store.agenda id request) (Frame.serving id) events

/-- Lets the debouncer under a key serve a request; without one the answer is the given one. -/
def serveKey (store : Store τ) (key : Value) (request : Request (Work (Op τ) (Reply τ)))
    (otherwise : Answer τ) : Outcome τ :=
  match store.registry.get? key with
  | .error fault => answer store (.error fault)
  | .ok none => answer store (.ok otherwise)
  | .ok (some id) => serve store id request []

/-- Resets several debouncers in order. -/
def resetAll (store : Store τ) : List DebouncerId → Store τ × List (Notice τ)
  | [] => (store, [])
  | id :: rest => match store.registry.debouncer? id with
      | none => resetAll store rest
      | some debouncer =>
          let turn := debouncer.reset store.agenda
          let store :=
            { agenda := turn.scheduler, registry := store.registry.set id turn.debouncer }
          let (store, events) := resetAll store rest
          (store, turn.events.map (Notice.mk id) ++ events)

/-- Fires the next timer that is due, or ends the advance. -/
def sweep (store : Store τ) (deadline : τ) (fired : Nat) : Outcome τ :=
  match store.agenda.fireNext? deadline with
  | none => answer { store with agenda := store.agenda.arrive deadline } (.ok (.count fired))
  | some (timerId, timer, agenda) =>
      let id := timer.callback
      match store.registry.debouncer? id with
      | none => answer { store with agenda := agenda } (.ok (.count fired))
      | some debouncer =>
          take { store with agenda := agenda } id (debouncer.fire agenda timerId)
            (fun _ => .advancing deadline (fired + 1)) [.timerFired timerId timer.executionTime]

/-- What is told about a debouncer that is asked for. -/
def describe (store : Store τ) (key : Value) : Reply τ :=
  match store.registry.get? key with
  | .error fault => .error fault
  | .ok none => .ok .nothing
  | .ok (some id) => match store.registry.debouncer? id with
      | none => .ok .nothing
      | some debouncer => .ok (.debouncer debouncer.constructorText debouncer.settings)

/-- Begins an operation. -/
def start (op : Op τ) (store : Store τ) : Outcome τ :=
  match op with
  | .guarded guard key work? =>
      let created := (Registry.chooseKey key work?).bind fun key =>
        store.registry.getOrCreate key guard.interval guard.leading guard.idleTime
          store.agenda.now
      match created with
      | .error fault => answer store (.error fault)
      | .ok (id, registry, events) =>
          serve { store with registry := registry } id (.call work?) events
  | .reset key => serveKey store key .reset (.flag false)
  | .flush key => serveKey store key .flush (.flag false)
  | .discard key => match store.registry.remove key with
      | .error fault => answer store (.error fault)
      | .ok (none, registry) => answer { store with registry := registry } (.ok (.flag false))
      | .ok (some id, registry) =>
          let (store, events) := resetAll { store with registry := registry } [id]
          answer store (.ok (.flag true)) events
  | .clear =>
      let ids := store.registry.entries.map Prod.snd
      let (store, events) :=
        resetAll { store with registry := { store.registry with entries := [] } } ids
      answer store (.ok .nothing) events
  | .contains key =>
      answer store ((store.registry.get? key).map fun id? => .flag id?.isSome)
  | .workKey work? => answer store ((Registry.chooseKey .null work?).map Answer.value)
  | .get key => answer store (describe store key)
  | .call key work? => serveKey store key (.call work?) .missing
  | .advance (.error fault) => answer store (.error fault)
  | .advance (.ok delay) => sweep store (store.agenda.now + delay) 0
  | .now => answer store (.ok (.instant store.agenda.now))

/-- Goes on after a work has replied. A failure ends an advance. -/
def resume (frame : Frame τ) (reply : Reply τ) (store : Store τ) : Outcome τ :=
  match frame, reply with
  | .serving id tail, reply => match store.registry.debouncer? id with
      | none => answer store reply
      | some debouncer =>
          let (debouncer, reply) := debouncer.finish tail reply
          answer { store with registry := store.registry.set id debouncer } reply
  | .advancing _ _, .error fault => answer store (.error fault)
  | .advancing deadline fired, .ok _ => sweep store deadline fired

/-- How the operations of a session act. -/
def machine : Machine (Op τ) (Reply τ) (Store τ) (Frame τ) (Notice τ) where
  start := start
  resume := resume

/-- A session with an empty registry, whose clock starts at the given reading. -/
def Store.new (clock : τ) : Store τ := { agenda := { now := clock } }

end Debounce.RegistrySession
