import Debounce.Debouncer.Turn
import Debounce.Registry.Key

/-!
# Registries

A registry maps keys to debouncers. The first operation under a key makes its debouncer, with the
policy of that operation; later ones find it there. Guards are the ready-made policies.
-/

namespace Debounce

/-- The place of a debouncer in the order of creation. -/
abbrev DebouncerId := Nat

/-- The debouncers made so far, and the numbers of those registered under a key. -/
structure Registry (τ ω : Type) where
  made : List (Debouncer τ ω) := []
  entries : List (Value × DebouncerId) := []

namespace Registry

variable {τ ω : Type}

/-- The number of keys. -/
def size (registry : Registry τ ω) : Nat := registry.entries.length

/-- The debouncer registered under a key that is known to be one. -/
def find? (registry : Registry τ ω) (key : Value) : Option DebouncerId :=
  (registry.entries.find? fun entry => Key.same entry.1 key).map Prod.snd

/-- The debouncer registered under a key. -/
def get? (registry : Registry τ ω) (key : Value) : Except Fault (Option DebouncerId) :=
  match Key.check key with
  | .ok () => .ok (registry.find? key)
  | .error fault => .error fault

/-- The debouncer of a number. -/
def debouncer? (registry : Registry τ ω) (id : DebouncerId) : Option (Debouncer τ ω) :=
  registry.made[id]?

/-- The state of the debouncer under a key, if the key is one and is registered. -/
def peek? (registry : Registry τ ω) (key : Value) : Option (Debouncer τ ω) :=
  match registry.get? key with
  | .ok (some id) => registry.debouncer? id
  | _ => none

/-- Changes the state of a debouncer. -/
def set (registry : Registry τ ω) (id : DebouncerId) (debouncer : Debouncer τ ω) :
    Registry τ ω :=
  { registry with made := registry.made.set id debouncer }

/-- Registers a debouncer under a key that is not in use. -/
def insert (registry : Registry τ ω) (key : Value) (debouncer : Debouncer τ ω) :
    DebouncerId × Registry τ ω :=
  (registry.made.length,
    { made := registry.made ++ [debouncer]
      entries := registry.entries ++ [(key, registry.made.length)] })

/-- Takes a key out of use. An empty registry does not look at the key. -/
def remove (registry : Registry τ ω) (key : Value) :
    Except Fault (Option DebouncerId × Registry τ ω) :=
  if registry.entries.isEmpty then .ok (none, registry)
  else match registry.get? key with
    | .error fault => .error fault
    | .ok id? =>
        let entries := registry.entries.filter fun entry => !Key.same entry.1 key
        .ok (id?, { registry with entries := entries })

/-- The key to use: the given one, or the place of the work in the source. -/
def chooseKey {Op R : Type} (key : Value) (work? : Option (Work Op R)) : Except Fault Value :=
  match key, work?.bind Work.source with
  | .null, some source => .ok (Key.ofSource source)
  | .null, none => .error (.noKey (work?.map Work.name))
  | key, _ => .ok key

/-- The debouncer under a key; with the given policy it is made first if there is none. -/
def getOrCreate [Instant τ] (registry : Registry τ ω) (key interval leading idleTime : Value)
    (now : τ) : Except Fault (DebouncerId × Registry τ ω × List (Event τ)) := do
  match ← registry.get? key with
  | some id => .ok (id, registry, [])
  | none =>
      let settings ← Settings.build interval leading idleTime
      let debouncer ← Debouncer.ofSettings settings (.text key.displayText) now
      let (id, registry) := registry.insert key debouncer
      .ok (id, registry, [.registered key.displayText])

end Registry

/-- The ways to debounce a work under a key. -/
inductive Guard where
  | debounce (interval leading idleTime : Value)
  /-- Waits until calls have paused for the begin of the range. -/
  | debounceFor (range : Value)
  /-- Runs the latest work once per period. -/
  | throttleFor (range : Value)
  /-- Runs the first call of a period at once and ignores the others. -/
  | onlyEvery (range : Value)

namespace Guard

/-- The begin of a range; anything that is no range is its own begin. -/
def rangeBegin : Value → Value
  | .interval bounds => .duration bounds.begin
  | .list (begin :: _) | .tuple (begin :: _) => begin
  | value => value

/-- The period that a word stands for; anything else stands for itself. -/
def namedPeriod : Value → Value
  | .text "second" => .duration (.ofSeconds 1)
  | .text "minute" => .duration (.ofSeconds 60)
  | .text "hour" => .duration (.ofSeconds 3600)
  | .text "day" => .duration (.ofSeconds 86400)
  | value => value

/-- The interval of the policy. -/
def interval : Guard → Value
  | debounce interval _ _ => interval
  | debounceFor range | throttleFor range => range
  | onlyEvery range => namedPeriod range

/-- The edge of the policy. -/
def leading : Guard → Value
  | debounce _ leading _ => leading
  | debounceFor _ | throttleFor _ => .bool false
  | onlyEvery _ => .bool true

/-- The idle time of the policy. -/
def idleTime : Guard → Value
  | debounce _ _ idleTime => idleTime
  | debounceFor range => rangeBegin range
  | throttleFor _ | onlyEvery _ => .null

end Guard

end Debounce
