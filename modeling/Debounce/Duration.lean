import Debounce.Instant

/-!
# Durations

A duration is a whole number of microseconds, at most a billion days long. This module holds its
order, its length in seconds, and the two texts it is written as: the constructor form, which
lists the non-zero parts, and the clock form.

Reading a value can fail in two ways. Mostly the value is refused for a reason, and the check that
it is part of goes on to look for more that is wrong. But a duration below the least one ends the
whole check.
-/

namespace Debounce

/-- A signed span of time in whole microseconds. -/
structure Duration where
  micros : Int
  deriving DecidableEq, Inhabited

namespace Duration

instance : LE Duration := ⟨fun a b => a.micros ≤ b.micros⟩

instance : DecidableLE Duration := fun a b => inferInstanceAs (Decidable (a.micros ≤ b.micros))

/-- The empty duration. -/
def zero : Duration := ⟨0⟩

/-- A whole number of seconds. -/
def ofSeconds (seconds : Int) : Duration := ⟨seconds * 1000000⟩

/-- The longest duration: 999,999,999 days and one microsecond less than another day. -/
def maxMicros : Nat := 86399999999999999999

/-- The magnitude of the least duration: 999,999,999 days. -/
def leastMagnitude : Nat := 86399999913600000000

/-- The length in seconds. -/
def seconds {τ : Type} [Instant τ] (duration : Duration) : τ := Instant.ofMicros duration.micros

/-- Whole days, then seconds below a day, then microseconds below a second. Only the days carry
the sign. -/
def parts (duration : Duration) : Int × Nat × Nat :=
  let day : Int := 86400000000
  let rest := (duration.micros % day).toNat
  (duration.micros / day, rest / 1000000, rest % 1000000)

/-- The constructor form: the non-zero parts by name, or a lone `0`. -/
def constructorText (duration : Duration) : String :=
  let (days, seconds, micros) := duration.parts
  let named (name : String) (text : String) (shown : Bool) : List String :=
    if shown then [name ++ "=" ++ text] else []
  let shown := named "days" (toString days) (days != 0)
    ++ named "seconds" (toString seconds) (seconds != 0)
    ++ named "microseconds" (toString micros) (micros != 0)
  "datetime.timedelta(" ++ (if shown.isEmpty then "0" else ", ".intercalate shown) ++ ")"

/-- A number of at least the given count of digits. -/
def padded (width : Nat) (n : Nat) : String :=
  let digits := toString n
  String.ofList (List.replicate (width - digits.length) '0') ++ digits

/-- The clock form `[D day[s], ]H:MM:SS[.ffffff]`. -/
def clockText (duration : Duration) : String :=
  let (days, seconds, micros) := duration.parts
  let dayText :=
    if days = 0 then ""
    else toString days ++ (if days.natAbs = 1 then " day, " else " days, ")
  dayText ++ toString (seconds / 3600) ++ ":" ++ padded 2 (seconds / 60 % 60) ++ ":"
    ++ padded 2 (seconds % 60) ++ (if micros = 0 then "" else "." ++ padded 6 micros)

end Duration

/-- Why a reading failed. -/
inductive Objection (ε : Type) where
  | refused (reason : ε)
  /-- A duration was below the least one. -/
  | underflow
  deriving DecidableEq

/-- The same objection with its reason put into a larger setting. -/
def Objection.map {ε δ : Type} (view : ε → δ) : Objection ε → Objection δ
  | refused reason => .refused (view reason)
  | underflow => .underflow

end Debounce
