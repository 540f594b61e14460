import Debounce.Duration
import Debounce.Text.Character

/-!
# Duration texts

Three written forms of a duration are read, each with an optional sign in front:

* designators: `P` with years, months, weeks and days, then `T` with hours, minutes and seconds,
  the last quantity with an optional fraction;
* a clock: `H:MM` or `H:MM:SS`, the seconds with an optional fraction;
* days: a number with `d`, `day` or `days`, and optionally a clock of less than a day.

The quantities and their sums are kept below 2 ^ 32.

Texts are read as the characters of their bytes, so a character outside ASCII is never a digit or
a letter.
-/

namespace Debounce.Duration

/-- What can be wrong with a duration text. -/
inductive TextFlaw where
  | tooShort
  | invalidDigit
  | dayMisspelt
  | dateQuantity
  | timeQuantity
  | repeatedTimeMark
  | fractionNotLast
  | hourCharacter
  | minuteCharacter
  | secondCharacter
  | minuteRange
  | secondRange
  | fractionMissing
  | extraCharacters
  | valueTooLarge
  | tooManyDays
  | tooManyHours
  | notANumber
  deriving DecidableEq

/-- The reason in words. -/
def TextFlaw.message : TextFlaw → String
  | tooShort => "input is too short"
  | invalidDigit => "invalid digit in duration"
  | dayMisspelt => "\"day\" identifier in duration not correctly formatted"
  | dateQuantity => "quantity invalid in date part of duration"
  | timeQuantity => "quantity invalid in time part of duration"
  | repeatedTimeMark => "\x60t\x60 character repeated in duration"
  | fractionNotLast => "quantity fraction invalid in duration"
  | hourCharacter => "invalid character in hour"
  | minuteCharacter => "invalid character in minute"
  | secondCharacter => "invalid character in second"
  | minuteRange => "minute value is outside expected range of 0-59"
  | secondRange => "second value is outside expected range of 0-59"
  | fractionMissing => "second fraction digits missing after \x60.\x60"
  | extraCharacters => "unexpected extra characters at the end of the input"
  | valueTooLarge => "a numeric value in the duration is too large"
  | tooManyDays => "durations may not exceed 999,999,999 days"
  | tooManyHours => "durations may not exceed 999,999,999 hours"
  | notANumber => "NaN values not permitted"

/-- The duration whose magnitude and sign are given, if it is neither too long nor below the least
one. -/
def ofMagnitude (negative : Bool) (micros : Nat) : Except (Objection TextFlaw) Duration :=
  if maxMicros < micros then .error (.refused .tooManyDays)
  else if negative && leastMagnitude < micros then .error .underflow
  else .ok ⟨if negative then -micros else micros⟩

/-- The magnitude of a duration while it is read. -/
structure Total where
  days : Nat := 0
  seconds : Nat := 0
  micros : Nat := 0

/-- A number that fits into 32 bits. -/
def bounded (n : Nat) : Except TextFlaw Nat :=
  if n < Nat.pow 2 32 then .ok n else .error .valueTooLarge

/-- The sum of two magnitudes, part by part. -/
def Total.add (total other : Total) : Except TextFlaw Total := do
  let days ← bounded (total.days + other.days)
  let seconds ← bounded (total.seconds + other.seconds)
  let micros ← bounded (total.micros + other.micros)
  .ok ⟨days, seconds, micros⟩

/-- All of a magnitude in microseconds, if carrying it into days gives no more than fit. -/
def Total.toMicros (total : Total) : Except TextFlaw Nat := do
  let seconds ← bounded (total.seconds + total.micros / 1000000)
  let days ← bounded (total.days + seconds / 86400)
  if days ≤ 999999999 then
    .ok ((days * 86400 + seconds % 86400) * 1000000 + total.micros % 1000000)
  else .error .tooManyDays

/-- The whole part and the rest of a fraction of seconds: seconds and rounded microseconds. -/
def splitSeconds (seconds : Float) : Nat × Nat :=
  let whole := seconds.floor
  (whole.toUInt64.toNat, ((seconds - whole) * 1000000.0).round.toUInt64.toNat)

/-- The days that a date designator stands for. -/
def dateUnit? : Char → Option Nat
  | 'Y' => some 365
  | 'M' => some 30
  | 'W' => some 7
  | 'D' => some 1
  | _ => none

/-- The seconds that a time designator stands for. -/
def timeUnit? : Char → Option Nat
  | 'H' => some 3600
  | 'M' => some 60
  | 'S' => some 1
  | _ => none

/-- A quantity of a unit of days, with a fraction. -/
def Total.ofDays (unit count : Nat) (fraction : Float) : Total :=
  let extra := fraction * unit.toFloat
  let whole := extra.floor
  let (seconds, micros) := splitSeconds ((extra - whole) * 86400.0)
  { days := unit * count + whole.toUInt64.toNat, seconds := seconds, micros := micros }

/-- A quantity of a unit of seconds, with a fraction. -/
def Total.ofSeconds (unit count : Nat) (fraction : Float) : Total :=
  let (seconds, micros) := splitSeconds (fraction * unit.toFloat)
  { seconds := unit * count + seconds, micros := micros }

/-- The quantity that is being read: its whole part, and its fraction as a numerator over a power
of ten once the point has been seen. -/
inductive Quantity where
  | outside
  | whole (count : Nat)
  | fraction (count : Nat) (numerator denominator : Float)

/-- What has been read of the designators so far. -/
structure Progress where
  /-- The `T` has been seen. -/
  inTime : Bool := false
  /-- The last quantity had a fraction, so no other may follow. -/
  closed : Bool := false
  total : Total := {}

/-- Takes over a quantity, which the unit behind it completes. -/
def Progress.take (progress : Progress) (count : Nat) (fraction? : Option Float)
    (unit? : Option Char) : Except TextFlaw Progress := do
  let count ← bounded count
  if progress.closed then .error .fractionNotLast
  else
    let quantity ←
      if progress.inTime then
        match unit?.bind timeUnit? with
        | some unit => .ok (Total.ofSeconds unit count (fraction?.getD 0.0))
        | none => .error .timeQuantity
      else
        match unit?.bind dateUnit? with
        | some unit => .ok (Total.ofDays unit count (fraction?.getD 0.0))
        | none => .error .dateQuantity
    let total ← progress.total.add quantity
    .ok { progress with closed := fraction?.isSome, total := total }

/-- Reads what follows the `P`, one character at a time. -/
def readDesignators (progress : Progress) (quantity : Quantity) :
    List Char → Except TextFlaw Total
  | [] => match quantity with
      | .outside => .ok progress.total
      | .whole count => do
          let progress ← progress.take count none none
          .ok progress.total
      | .fraction count numerator denominator => do
          let progress ← progress.take count (some (numerator / denominator)) none
          .ok progress.total
  | c :: rest => match quantity with
      | .outside =>
          if c = 'T' then
            if progress.inTime then .error .repeatedTimeMark
            else readDesignators { progress with inTime := true } .outside rest
          else if c.isDigit then
            readDesignators progress (.whole (Text.decimalValue [c])) rest
          else .error .invalidDigit
      | .whole count =>
          if c.isDigit then
            readDesignators progress (.whole (count * 10 + Text.decimalValue [c])) rest
          else if c = '.' ∨ c = ',' then
            readDesignators progress (.fraction count 0.0 1.0) rest
          else do
            let progress ← progress.take count none (some c)
            readDesignators progress .outside rest
      | .fraction count numerator denominator =>
          if c.isDigit then
            let digit := (Text.decimalValue [c]).toFloat
            readDesignators progress
              (.fraction count (numerator * 10.0 + digit) (denominator * 10.0)) rest
          else do
            let progress ← progress.take count (some (numerator / denominator)) (some c)
            readDesignators progress .outside rest

/-- Two digits of which the first may not exceed five. -/
def sixtieth (character range : TextFlaw) : List Char → Except TextFlaw Nat
  | a :: b :: _ =>
      if a.isDigit && b.isDigit then
        let n := Text.decimalValue [a, b]
        if n < 60 then .ok n else .error range
      else .error character
  | _ => .error character

/-- The microseconds that the digits after the point of a clock denote. -/
def clockFraction (digits : List Char) : Nat :=
  let kept := digits.take 6
  Text.decimalValue kept * Nat.pow 10 (6 - kept.length)

/-- What follows the minutes of a clock: nothing, or seconds with an optional fraction. -/
def readClockSeconds : List Char → Except TextFlaw (Nat × Nat)
  | [] => .ok (0, 0)
  | ':' :: rest => do
      let seconds ← sixtieth .secondCharacter .secondRange rest
      match rest.drop 2 with
      | [] => .ok (seconds, 0)
      | point :: rest =>
          if point = '.' ∨ point = ',' then
            let digits := rest.takeWhile Char.isDigit
            if digits.isEmpty then .error .fractionMissing
            else if (rest.dropWhile Char.isDigit).isEmpty then .ok (seconds, clockFraction digits)
            else .error .extraCharacters
          else .error .extraCharacters
  | _ => .error .extraCharacters

/-- The hours in front of a clock: ten digits and a hundred million days at most. -/
def readHours (cs : List Char) : Except TextFlaw Nat :=
  if 10 < cs.length then .error .tooManyHours
  else if !cs.all Char.isDigit then .error .hourCharacter
  else if 2400000000 < Text.decimalValue cs then .error .tooManyHours
  else .ok (Text.decimalValue cs)

/-- Reads a clock, which has at least five characters. Behind the hours only twelve characters are
looked at: enough for minutes, seconds and six digits of a fraction. -/
def readClock (cs : List Char) : Except TextFlaw Total := do
  if cs.length < 5 then .error .tooShort
  else if !cs.contains ':' then .error .hourCharacter
  else
    let hours ← readHours (cs.takeWhile (· ≠ ':'))
    let rest := ((cs.dropWhile (· ≠ ':')).drop 1).take 12
    if rest.length < 2 then .error .tooShort
    else
      let minutes ← sixtieth .minuteCharacter .minuteRange rest
      let (seconds, micros) ← readClockSeconds (rest.drop 2)
      .ok
        { days := hours / 24
          seconds := hours % 24 * 3600 + minutes * 60 + seconds
          micros := micros }

/-- Drops a character in front, if it is the given one. -/
def dropMark (mark : Char) (cs : List Char) : List Char :=
  if cs.head? = some mark then cs.drop 1 else cs

/-- What follows the `d` of a days part, without the rest of `day` or `days`, whose letters must
be all small or all capital. -/
def dropDayWord : List Char → Except TextFlaw (List Char)
  | 'a' :: 'y' :: rest => .ok (dropMark 's' rest)
  | 'A' :: 'Y' :: rest => .ok (dropMark 'S' rest)
  | 'a' :: _ | 'A' :: _ => .error .dayMisspelt
  | rest => .ok rest

/-- Reads a days part and the clock that may follow it after a comma, a space or both. Such a
clock must denote less than a day. -/
def readDays (cs : List Char) : Except TextFlaw Total := do
  match cs with
  | [] => .error .tooShort
  | first :: _ =>
      if !first.isDigit then .error .invalidDigit
      else
        let days ← bounded (Text.decimalValue (cs.takeWhile Char.isDigit))
        match dropMark ' ' (cs.dropWhile Char.isDigit) with
        | [] => .error .dayMisspelt
        | mark :: rest =>
            if mark.toLower ≠ 'd' then .error .dayMisspelt
            else
              let rest ← dropDayWord rest
              let rest := dropMark ' ' (dropMark ',' rest)
              if rest.isEmpty then .ok { days := days }
              else
                let clock ← readClock rest
                if clock.days = 0 then .ok { clock with days := days }
                else .error .tooManyHours

/-- Reads the magnitude of a text without a sign. The form is chosen by the first letter, then by
the presence of a `d`; a text of fewer than five characters is no clock. At least one quantity
must follow a `P`. -/
def readMagnitude (cs : List Char) : Except TextFlaw Total :=
  match cs with
  | 'P' :: rest => do
      let total ← readDesignators {} .outside rest
      if rest.length < 2 then .error .tooShort else .ok total
  | _ =>
      if cs.any (·.toLower = 'd') || cs.length < 5 then readDays cs else readClock cs

/-- Reads a duration text. -/
def ofText (cs : List Char) : Except (Objection TextFlaw) Duration :=
  let (negative, unsigned) : Bool × List Char := match cs with
    | '-' :: rest => (true, rest)
    | '+' :: rest => (false, rest)
    | rest => (false, rest)
  match (readMagnitude unsigned).bind Total.toMicros with
  | .ok micros => ofMagnitude negative micros
  | .error flaw => .error (.refused flaw)

end Debounce.Duration
