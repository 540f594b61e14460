import Debounce.Decimal.Numeral
import Debounce.Decimal.Whole
import Debounce.Fault

/-!
# Reading numbers

Loosely typed values are read as numbers of two kinds. Clock readings and delays are doubles, given
as numbers, as durations, or as texts that denote a number. Settings are integers, given as numbers
without a fraction or as texts.
-/

namespace Debounce.Value

/-- The characters of bytes; those outside ASCII are no part of any number. -/
def asciiOfBytes (content : List UInt8) : List Char :=
  content.map fun b => if b < 128 then Char.ofNat b.toNat else '\ufffd'

/-- Reads a number. -/
def toNumber : Value → Except Fault Float
  | bool b => .ok (if b then 1.0 else 0.0)
  | int n =>
      let x := Float.ofInt n
      if x.isInf then .error .hugeNumber else .ok x
  | float x => .ok x
  | text s => match Decimal.readNumber? s.toList with
      | some x => .ok x
      | none => .error (.badNumber (Text.quoted s))
  | bytes content => match Decimal.readNumber? (asciiOfBytes content) with
      | some x => .ok x
      | none => .error (.badNumber (Text.quotedBytes content))
  | value => .error (.notANumber value.kindName)

/-- Reads a delay: a duration, or a number of seconds. -/
def toSeconds : Value → Except Fault Float
  | duration span => .ok span.seconds
  | value => value.toNumber

/-- The first magnitude that is too large for a signed integer of 64 bits. -/
def wordLimit : Int := ((Nat.pow 2 63 : Nat) : Int)

/-- Text encoded in UTF-8. -/
def decodeText? (content : List UInt8) : Option String :=
  String.fromUTF8? content.toByteArray

/-- The integer that a double is, if it is one and its magnitude is less than 2 ^ 63. -/
def integerOfFloat (x : Float) : Except Refusal Int :=
  match Decimal.Binary.ofFloat x with
  | .nan | .infinite _ => .error .infiniteInteger
  | binary => match binary.toInt? with
      | none => .error .fractionalInteger
      | some n => if -wordLimit < n ∧ n < wordLimit then .ok n else .error .longInteger

/-- The integer that a text denotes. -/
def integerOfText (s : String) : Except Refusal Int :=
  (Decimal.readWhole s.toList).mapError fun
    | .malformed => .badInteger
    | .tooLong => .longInteger

/-- Reads an integer. -/
def toInteger : Value → Except Refusal Int
  | int n => .ok n
  | bool b => .ok b.toNat
  | float x => integerOfFloat x
  | text s => integerOfText s
  | bytes content => match decodeText? content with
      | some s => integerOfText s
      | none => .error .badInteger
  | _ => .error .notAnInteger

end Debounce.Value
