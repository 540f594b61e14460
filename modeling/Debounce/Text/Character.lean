/-!
# Characters

Blanks, decimal digits and capital letters, each in the class of Unicode that a reading goes by.

There are two classes of blanks; the wider one also counts the four information separators. The
decimal digits are those of all scripts. The digits of a script come in a run of ten, so a table of
the zeros is enough. Capitals are only looked for in level names, which consist of the letters A to
Z. Besides the small letters a to z only two characters have one of these as their capital: the
dotless i and the long s. Full case mapping can also turn one character into several capitals, but
never into a run that occurs in a level name.
-/

namespace Debounce.Text

/-! ## Blanks -/

/-- A character with the Unicode property White_Space. -/
def isWhiteSpace (c : Char) : Bool :=
  let n := c.toNat
  (0x9 ≤ n && n ≤ 0xd) || n = 0x20 || n = 0x85 || n = 0xa0 || n = 0x1680
    || (0x2000 ≤ n && n ≤ 0x200a) || n = 0x2028 || n = 0x2029 || n = 0x202f || n = 0x205f
    || n = 0x3000

/-- White space, or a separator by its bidirectional class: file, group, record and unit. -/
def isBlank (c : Char) : Bool := isWhiteSpace c || (0x1c ≤ c.toNat && c.toNat ≤ 0x1f)

/-- Drops the characters of a class from both ends. -/
def trim (drop : Char → Bool) (cs : List Char) : List Char :=
  ((cs.dropWhile drop).reverse.dropWhile drop).reverse

/-! ## Digits -/

/-- The code points of the digit zero in every script, in ascending order. -/
def zeroDigits : List Nat :=
  [
    0x30, 0x660, 0x6f0, 0x7c0, 0x966, 0x9e6, 0xa66, 0xae6, 0xb66, 0xbe6,
    0xc66, 0xce6, 0xd66, 0xde6, 0xe50, 0xed0, 0xf20, 0x1040, 0x1090, 0x17e0,
    0x1810, 0x1946, 0x19d0, 0x1a80, 0x1a90, 0x1b50, 0x1bb0, 0x1c40, 0x1c50, 0xa620,
    0xa8d0, 0xa900, 0xa9d0, 0xa9f0, 0xaa50, 0xabf0, 0xff10, 0x104a0, 0x10d30, 0x11066,
    0x110f0, 0x11136, 0x111d0, 0x112f0, 0x11450, 0x114d0, 0x11650, 0x116c0, 0x11730, 0x118e0,
    0x11950, 0x11c50, 0x11d50, 0x11da0, 0x16a60, 0x16ac0, 0x16b50, 0x1d7ce, 0x1d7d8, 0x1d7e2,
    0x1d7ec, 0x1d7f6, 0x1e140, 0x1e2f0, 0x1e950, 0x1fbf0]

/-- The value of a decimal digit of any script. -/
def digitValue? (c : Char) : Option Nat :=
  (zeroDigits.find? fun least => least ≤ c.toNat && c.toNat < least + 10).map (c.toNat - ·)

/-- The number that a run of ASCII digits denotes in base ten. -/
def decimalValue (digits : List Char) : Nat :=
  digits.foldl (fun value digit => value * 10 + (digit.toNat - '0'.toNat)) 0

/-- Removes single underscores that stand between two ASCII digits; with any other underscore
there is no result. The character before the text is given. -/
def ungrouped? (before : Char) : List Char → Option (List Char)
  | [] => some []
  | '_' :: after :: rest =>
      if before.isDigit && after.isDigit then (ungrouped? after rest).map (after :: ·) else none
  | ['_'] => none
  | c :: rest => (ungrouped? c rest).map (c :: ·)

/-! ## Capitals -/

/-- The capital of a character, if that is one of A to Z; else the character itself. -/
def capital (c : Char) : Char :=
  if c = 'ı' then 'I' else if c = 'ſ' then 'S' else c.toUpper

end Debounce.Text
