import Debounce.Value.Number

/-!
# Reading values

Loosely typed values are read as durations, flags and texts. Each reading accepts more than the
plain kind of value: numbers and texts for durations, words for flags, bytes for texts.
-/

namespace Debounce.Value

/-- The duration of a number of seconds: whole seconds, and the rest rounded to microseconds, a
half away from zero. -/
def durationOfFloat (x : Float) : Except (Objection Duration.TextFlaw) Duration :=
  let magnitude := x.abs
  if x.isNaN then .error (.refused .notANumber)
  else if 86400.0 * 1000000000.0 ≤ magnitude then .error (.refused .tooManyDays)
  else
    let (seconds, micros) := Duration.splitSeconds magnitude
    Duration.ofMagnitude (x < 0.0) (seconds * 1000000 + micros)

/-- The duration that a text denotes, given by its bytes. -/
def durationOfBytes (content : List UInt8) : Except (Objection Duration.TextFlaw) Duration :=
  Duration.ofText (content.map fun b => Char.ofNat b.toNat)

/-- A flaw of a duration is a reason to refuse the value. -/
def flawed (reading : Except (Objection Duration.TextFlaw) Duration) :
    Except (Objection Refusal) Duration :=
  reading.mapError (Objection.map .badDuration)

/-- Reads a duration. Numbers are seconds, and a flag counts as one second or none; an integer that
is too large for a double is no number of seconds. -/
def toDuration : Value → Except (Objection Refusal) Duration
  | duration span => .ok span
  | bool b => .ok (.ofSeconds b.toNat)
  | int n =>
      if (Float.ofInt n).isInf then .error (.refused .notADuration)
      else flawed (Duration.ofMagnitude (n < 0) (n.natAbs * 1000000))
  | float x => flawed (durationOfFloat x)
  | text s => flawed (durationOfBytes s.toUTF8.toList)
  | bytes content => flawed (durationOfBytes content)
  | _ => .error (.refused .notADuration)

/-- Reads a duration that is not negative, with the refusal to use for a negative one. -/
def toSpan (negative : Refusal) (value : Value) :
    Except (Objection Refusal) { span : Duration // Duration.zero ≤ span } :=
  match value.toDuration with
  | .ok span =>
      if nonneg : Duration.zero ≤ span then .ok ⟨span, nonneg⟩ else .error (.refused negative)
  | .error objection => .error objection

/-- Reads an optional span; `null` is none. -/
def toSpan? (negative : Refusal) (value : Value) :
    Except (Objection Refusal) (Option { span : Duration // Duration.zero ≤ span }) :=
  match value with
  | null => .ok none
  | value => (value.toSpan negative).map some

/-- The flag that a word stands for, in any case. -/
def flagOfWord (word : String) : Except Refusal Bool :=
  let word := word.toLower
  if ["1", "t", "true", "y", "yes", "on"].contains word then .ok true
  else if ["0", "f", "false", "n", "no", "off"].contains word then .ok false
  else .error .unclearFlag

/-- The flag that an integer stands for; an integer beyond 64 bits is of the wrong kind. -/
def flagOfInt (n : Int) : Except Refusal Bool :=
  if n < -wordLimit ∨ wordLimit ≤ n then .error .notAFlag
  else if n = 1 then .ok true else if n = 0 then .ok false else .error .unclearFlag

/-- Reads a flag. -/
def toFlag : Value → Except Refusal Bool
  | bool b => .ok b
  | int n => flagOfInt n
  | float x => match integerOfFloat x with
      | .ok n => flagOfInt n
      | .error _ => .error .notAFlag
  | text s => flagOfWord s
  | bytes content => match decodeText? content with
      | some s => flagOfWord s
      | none => .error .unclearFlag
  | _ => .error .notAFlag

/-- Reads a text. -/
def toText : Value → Except Refusal String
  | text s => .ok s
  | bytes content => match decodeText? content with
      | some s => .ok s
      | none => .error .badEncoding
  | _ => .error .notAText

end Debounce.Value
