import Debounce.Value

/-!
# Settings

The timing policy of a debouncer. A policy without an interval passes every call through.
-/

namespace Debounce

/-- An immutable timing policy. -/
structure Settings where
  interval : Option Interval
  leading : Bool
  idleTime : Option Duration
  idleTime_nonneg : ∀ idle, idleTime = some idle → Duration.zero ≤ idle

namespace Settings

theorem ext_parts {a b : Settings} (intervals : a.interval = b.interval)
    (edges : a.leading = b.leading) (idles : a.idleTime = b.idleTime) : a = b := by
  cases a; cases b
  cases intervals; cases edges; cases idles
  rfl

instance : DecidableEq Settings := fun a b =>
  decidable_of_iff (a.interval = b.interval ∧ a.leading = b.leading ∧ a.idleTime = b.idleTime)
    ⟨fun ⟨intervals, edges, idles⟩ => ext_parts intervals edges idles,
      fun equal => equal ▸ ⟨rfl, rfl, rfl⟩⟩

/-- No interval: calls are not debounced. -/
def passthrough (settings : Settings) : Bool := settings.interval.isNone

/-- The interval as a value. -/
def intervalValue (settings : Settings) : Value :=
  match settings.interval with
  | none => .null
  | some bounds => .interval bounds

/-- The edge as a value. -/
def leadingValue (settings : Settings) : Value := .bool settings.leading

/-- The idle time as a value. -/
def idleTimeValue (settings : Settings) : Value :=
  match settings.idleTime with
  | none => .null
  | some span => .duration span

/-- The constructor form of a policy. -/
def constructorText (settings : Settings) : String :=
  "DebounceSettings(interval=" ++ settings.intervalValue.constructorText
    ++ ", leading=" ++ settings.leadingValue.constructorText
    ++ ", idle_time=" ++ settings.idleTimeValue.constructorText ++ ")"

end Settings

end Debounce
