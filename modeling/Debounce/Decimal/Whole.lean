import Debounce.Text.Character

/-!
# Whole numbers in text

A plain numeral is an optional minus and digits without a zero in front. Any other text is first
reduced to its significant part: without blanks around it, a plus, zeros in front, a fraction of
zeros and underscores between digits. If that is a plain numeral, the text denotes the same number.
-/

namespace Debounce.Decimal

/-- What can be wrong with the text of a whole number. -/
inductive WholeFlaw where
  | malformed
  /-- A plain numeral has more than 4300 digits. -/
  | tooLong
  deriving DecidableEq

/-- Reads plain digits. -/
def readDigits (cs : List Char) : Except WholeFlaw Nat :=
  match cs with
  | [] => .error .malformed
  | ['0'] => .ok 0
  | first :: _ =>
      if first = '0' ∨ !first.isDigit then .error .malformed
      else if 4300 < (cs.takeWhile Char.isDigit).length then .error .tooLong
      else if cs.all Char.isDigit then .ok (Text.decimalValue cs)
      else .error .malformed

/-- Reads a plain numeral. -/
def readPlain : List Char → Except WholeFlaw Int
  | '-' :: digits => (readDigits digits).map fun n => -n
  | digits => (readDigits digits).map fun n => n

/-- Drops what stands in front of the first digit that counts: further zeros and underscores after
a zero that has been read. A minus ends them too. If a point or nothing follows them, the last one
is kept. -/
def dropZeros? (last : Char) : List Char → Option (List Char)
  | [] => some [last]
  | c :: rest =>
      if c = '0' ∨ c = '_' then dropZeros? c rest
      else if c = '.' then some (last :: c :: rest)
      else if c.isDigit ∨ c = '-' then some (c :: rest)
      else none

/-- A numeral without zeros in front, which begins with a digit or a minus. -/
def unpadded? : List Char → Option (List Char)
  | [] => none
  | c :: rest =>
      if c = '0' then dropZeros? c rest
      else if c.isDigit ∨ c = '-' then some (c :: rest)
      else none

/-- A numeral without a plus and without zeros behind its sign. No minus may follow a plus. -/
def withoutPadding? : List Char → Option (List Char)
  | '+' :: '-' :: _ => none
  | '+' :: rest => unpadded? rest
  | '-' :: rest => (unpadded? rest).map ('-' :: ·)
  | rest => unpadded? rest

/-- Drops a point with nothing but zeros behind it, of which there is at least one. -/
def dropZeroFraction (cs : List Char) : List Char :=
  match cs.dropWhile (· ≠ '.') with
  | [] => cs
  | _ :: rest => if !rest.isEmpty && rest.all (· = '0') then cs.takeWhile (· ≠ '.') else cs

/-- No underscore follows the given character if that is one, and none stands at the end. -/
def singlyGrouped (before : Char) : List Char → Bool
  | [] => before ≠ '_'
  | c :: rest => (before ≠ '_' || c ≠ '_') && singlyGrouped c rest

/-- Drops the underscores unless one stands in front, at the end or beside another. -/
def dropUnderscores (cs : List Char) : List Char :=
  if singlyGrouped '_' cs then cs.filter (· ≠ '_') else cs

/-- The significant part of a text. -/
def significant? (cs : List Char) : Option (List Char) :=
  (withoutPadding? (Text.trim Text.isWhiteSpace cs)).map fun cs =>
    dropUnderscores (dropZeroFraction cs)

/-- Reads a whole number. Only a text that begins as a plain numeral is ever too long. -/
def readWhole (cs : List Char) : Except WholeFlaw Int :=
  match readPlain cs with
  | .ok n => .ok n
  | .error .tooLong => .error .tooLong
  | .error .malformed => match significant? cs with
      | none => .error .malformed
      | some plain => (readPlain plain).mapError fun _ => .malformed

end Debounce.Decimal
