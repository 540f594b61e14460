import Debounce.Decimal.Shortest
import Debounce.Text.Character

/-!
# Decimal numerals

Reading a decimal numeral as the nearest double: digits with an optional fraction and an optional
exponent. `readNumber?` adds signs, white space around the number, grouping underscores, the digits of
all scripts, infinities and not-a-number.
-/

namespace Debounce.Decimal

/-- The double nearest to `digits · 10 ^ exponent`; too large a number is infinite and too small
a one is zero. -/
def nearest (digits : Nat) (exponent : Int) : Float :=
  let top := digitCount digits + exponent
  if digits = 0 ∨ top < -330 then 0.0
  else if 310 < top then 1.0 / 0.0
  else Float.ofScientific digits (exponent < 0) exponent.natAbs

/-- An optional sign: whether it is a minus, and what follows. -/
def splitSign : List Char → Bool × List Char
  | '-' :: rest => (true, rest)
  | '+' :: rest => (false, rest)
  | rest => (false, rest)

/-- The exponent part of a numeral: nothing, or a mark, an optional sign and digits. -/
def readExponent? : List Char → Option Int
  | [] => some 0
  | mark :: rest =>
      let (negative, digits) := splitSign rest
      if (mark = 'e' || mark = 'E') && !digits.isEmpty && digits.all Char.isDigit then
        let size : Int := Text.decimalValue digits
        some (if negative then -size else size)
      else none

/-- Reads an unsigned numeral of ASCII digits; at least one digit stands before the exponent. -/
def readUnsigned? (cs : List Char) : Option Float :=
  let whole := cs.takeWhile Char.isDigit
  let (fraction, rest) := match cs.dropWhile Char.isDigit with
    | '.' :: rest => (rest.takeWhile Char.isDigit, rest.dropWhile Char.isDigit)
    | rest => ([], rest)
  if whole.isEmpty && fraction.isEmpty then none
  else (readExponent? rest).map fun exponent =>
    nearest (Text.decimalValue (whole ++ fraction)) (exponent - fraction.length)

/-- The character with every decimal digit turned into its ASCII form. -/
def plainDigit (c : Char) : Char :=
  match Text.digitValue? c with
  | some value => Char.ofNat ('0'.toNat + value)
  | none => c

/-- Reads a signed number between white space. -/
def readNumber? (cs : List Char) : Option Float :=
  let (negative, body) := splitSign ((Text.trim Text.isWhiteSpace cs).map plainDigit)
  let word := String.ofList (body.map Char.toLower)
  let magnitude? :=
    if word = "inf" ∨ word = "infinity" then some (1.0 / 0.0)
    else if word = "nan" then some (0.0 / 0.0)
    else (Text.ungrouped? ' ' body).bind readUnsigned?
  magnitude?.map fun magnitude => if negative then -magnitude else magnitude

end Debounce.Decimal
