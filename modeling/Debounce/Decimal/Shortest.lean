import Debounce.Decimal.Binary

/-!
# Shortest decimals

Among the decimals that read back as a given double, `shortest` picks one with the fewest digits,
and of those the nearest to the double. For each count of digits only the two neighbours of the
double on that decimal grid are candidates, and all comparisons are exact.
-/

namespace Debounce.Decimal

/-- A positive decimal `digits · 10 ^ exponent`. -/
structure Digits where
  digits : Nat
  exponent : Int
  deriving DecidableEq

/-- How many decimal digits a number has; none for zero. -/
def digitCount (n : Nat) : Nat := if n = 0 then 0 else (Nat.toDigits 10 n).length

/-- The fraction `numerator / denominator` with its denominator multiplied by `10 ^ exponent`. -/
def perGrid (numerator denominator : Nat) (exponent : Int) : Nat × Nat :=
  if 0 ≤ exponent then (numerator, denominator * Nat.pow 10 exponent.toNat)
  else (numerator * Nat.pow 10 (-exponent).toNat, denominator)

/-- The least `k` with `numerator / denominator < 10 ^ k`, for a positive fraction. -/
def magnitude (numerator denominator : Nat) : Int :=
  if denominator ≤ numerator then digitCount (numerator / denominator)
  else 1 - (digitCount ((denominator - 1) / numerator) : Int)

/-- The reals that round to a double lie between two bounds, given in quarters of the double's
last place; the bounds belong to it when its mantissa is even. -/
structure Bounds where
  below : Nat
  middle : Nat
  above : Nat
  closed : Bool

/-- The bounds of `mantissa · 2 ^ exponent`. Below a power of two the gap is half as wide. -/
def Bounds.ofMantissa (mantissa : Nat) (exponent : Int) : Bounds where
  below := 4 * mantissa -
    (if mantissa = Nat.pow 2 52 ∧ Binary.leastExponent < exponent then 1 else 2)
  middle := 4 * mantissa
  above := 4 * mantissa + 2
  closed := mantissa % 2 = 0

/-- The candidate on the grid of `10 ^ exponent` that reads back, if one does. -/
def onGrid? (bounds : Bounds) (quarter : Int) (exponent : Int) : Option Nat :=
  let (scale, denominator) := Binary.ratio 1 quarter
  let (scale, denominator) := perGrid scale denominator exponent
  let low := (bounds.middle * scale) / denominator
  let high := low + 1
  let lowFits :=
    if bounds.closed then bounds.below * scale ≤ low * denominator
    else bounds.below * scale < low * denominator
  let highFits :=
    if bounds.closed then high * denominator ≤ bounds.above * scale
    else high * denominator < bounds.above * scale
  let toLow := bounds.middle * scale - low * denominator
  let toHigh := high * denominator - bounds.middle * scale
  if lowFits ∧ highFits then
    some (if toLow < toHigh ∨ (toLow = toHigh ∧ low % 2 = 0) then low else high)
  else if lowFits then some low
  else if highFits then some high
  else none

/-- The shortest decimal that reads back as `mantissa · 2 ^ exponent`; seventeen digits always
do. -/
def shortest (mantissa : Nat) (exponent : Int) : Digits :=
  let bounds := Bounds.ofMantissa mantissa exponent
  let (numerator, denominator) := Binary.ratio mantissa exponent
  let top := magnitude numerator denominator
  let grids := (List.range 17).map fun count => top - (count + 1 : Nat)
  let found := grids.findSome? fun grid =>
    (onGrid? bounds (exponent - 2) grid).map fun digits => Digits.mk digits grid
  found.getD ⟨mantissa, exponent⟩

end Debounce.Decimal
