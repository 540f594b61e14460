/-!
# Instants

Clock readings and spans of seconds are kept abstract: every timing rule is stated over a type
with the operations of `Instant`. Programs run on `Float`; `Rat` gives the same rules without
rounding.
-/

namespace Debounce

/-- A type of clock readings and of spans between them, measured in seconds. -/
class Instant (τ : Type) extends Add τ, Sub τ, LE τ, LT τ where
  decidableLE : DecidableLE τ
  decidableLT : DecidableLT τ
  /-- The span of a whole number of microseconds. -/
  ofMicros : Int → τ
  /-- The spans differ by a microsecond at most. -/
  near : τ → τ → Bool

namespace Instant

variable {τ : Type} [Instant τ]

instance : DecidableLE τ := Instant.decidableLE

instance : DecidableLT τ := Instant.decidableLT

/-- The later of two instants; the first one unless the second is strictly later. -/
def later (a b : τ) : τ := if a < b then b else a

/-- The earlier of two instants; the first one unless the second is strictly earlier. -/
def sooner (a b : τ) : τ := if b < a then b else a

/-- The empty span. -/
def zero : τ := ofMicros 0

end Instant

/-- Double precision seconds. A whole number of microseconds becomes the double nearest to it, and
infinite spans are near only if they are equal. -/
instance : Instant Float where
  decidableLE := inferInstance
  decidableLT := inferInstance
  ofMicros
    | .ofNat micros => Float.ofScientific micros true 6
    | .negSucc micros => -Float.ofScientific (micros + 1) true 6
  near a b := a == b || (!a.isInf && !b.isInf && (b - a).abs <= 1e-6)

/-- Exact seconds. -/
instance : Instant Rat where
  decidableLE := inferInstance
  decidableLT := inferInstance
  ofMicros micros := (micros : Rat) / 1000000
  near a b := decide ((b - a).abs ≤ 1 / 1000000)

end Debounce
