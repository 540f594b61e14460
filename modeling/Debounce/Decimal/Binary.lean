/-!
# Doubles as binary fractions

A finite double is `± mantissa · 2 ^ exponent`. This module reads the two numbers off its bits
and compares a double with an integer exactly.
-/

namespace Debounce.Decimal

/-- A double by the shape of its value. -/
inductive Binary where
  | nan
  | infinite (negative : Bool)
  | finite (negative : Bool) (mantissa : Nat) (exponent : Int)
  deriving DecidableEq

namespace Binary

/-- The exponent of the smallest positive double. -/
def leastExponent : Int := -1074

/-- Reads sign, exponent field and fraction field off the 64 bits. -/
def ofFloat (x : Float) : Binary :=
  let bits := x.toBits.toNat
  let negative := bits / Nat.pow 2 63 = 1
  let field := bits / Nat.pow 2 52 % Nat.pow 2 11
  let fraction := bits % Nat.pow 2 52
  if field = 2047 then
    if fraction = 0 then .infinite negative else .nan
  else if field = 0 then .finite negative fraction leastExponent
  else .finite negative (Nat.pow 2 52 + fraction) (leastExponent + (field - 1 : Nat))

/-- The magnitude as a fraction: numerator and denominator. -/
def ratio (mantissa : Nat) (exponent : Int) : Nat × Nat :=
  if 0 ≤ exponent then (mantissa * Nat.pow 2 exponent.toNat, 1)
  else (mantissa, Nat.pow 2 (-exponent).toNat)

/-- The integer that a double is, if it is one. -/
def toInt? : Binary → Option Int
  | .finite negative mantissa exponent =>
      let (numerator, denominator) := ratio mantissa exponent
      if numerator % denominator = 0 then
        let magnitude : Int := (numerator / denominator : Nat)
        some (if negative then -magnitude else magnitude)
      else none
  | _ => none

end Binary

end Debounce.Decimal
