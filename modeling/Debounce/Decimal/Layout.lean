import Debounce.Decimal.Shortest

/-!
# Decimal layout

How a decimal is laid out as text: positional within a range of magnitudes, with an exponent
outside of it. `seconds` is the layout that all numbers of this library use.
-/

namespace Debounce.Decimal

/-- The choices a decimal text leaves open. The magnitude of a decimal is the position of its
first digit, 1 for the units. -/
structure Layout where
  /-- Magnitudes above this one and … -/
  above : Int
  /-- … up to this one are written out. -/
  upTo : Int
  exponentMark : String
  exponentDigits : Nat
  nan : String
  infinity : String

/-- Sixteen digits before the point and four zeros behind it are written out, a whole number keeps
one zero behind its point, and an exponent has a sign and two digits. -/
def seconds : Layout := ⟨-4, 16, "e", 2, "nan", "inf"⟩

namespace Layout

/-- The digits of a decimal without trailing zeros, and the position of the point after the first
of them. -/
def normal (decimal : Digits) : List Char × Int :=
  let digits := Nat.toDigits 10 decimal.digits
  let kept := (digits.reverse.dropWhile (· = '0')).reverse
  (if kept.isEmpty then ['0'] else kept, decimal.exponent + (digits.length : Nat))

/-- Zeros in a row. -/
def zeros (count : Int) : List Char := List.replicate count.toNat '0'

/-- Digits with the point after `point` of them, padded with zeros on either side. -/
def positional (digits : List Char) (point : Int) : List Char :=
  if point ≤ 0 then ['0', '.'] ++ zeros (-point) ++ digits
  else
    let whole := digits.take point.toNat ++ zeros (point - digits.length)
    let fraction := digits.drop point.toNat
    whole ++ ['.'] ++ (if fraction.isEmpty then ['0'] else fraction)

/-- One digit, the point if more follow, and the exponent. -/
def scientific (layout : Layout) (digits : List Char) (point : Int) : List Char :=
  let exponent := point - 1
  let size := Nat.toDigits 10 exponent.natAbs
  digits.take 1 ++ (if digits.length ≤ 1 then [] else '.' :: digits.drop 1)
    ++ layout.exponentMark.toList ++ [if exponent < 0 then '-' else '+']
    ++ zeros (layout.exponentDigits - size.length) ++ size

/-- The text of a decimal. -/
def decimal (layout : Layout) (decimal : Digits) : List Char :=
  let (digits, point) := normal decimal
  if layout.above < point ∧ point ≤ layout.upTo then positional digits point
  else layout.scientific digits point

/-- The text of a double: its shortest decimal, with a minus sign also for negative zero. -/
def text (layout : Layout) (x : Float) : String :=
  match Binary.ofFloat x with
  | .nan => layout.nan
  | .infinite negative => (if negative then "-" else "") ++ layout.infinity
  | .finite negative mantissa exponent =>
      let body :=
        if mantissa = 0 then ['0', '.', '0'] else layout.decimal (shortest mantissa exponent)
      (if negative then "-" else "") ++ String.ofList body

end Layout

end Debounce.Decimal
