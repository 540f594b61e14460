import Debounce.Fault
import Debounce.Text.Character

/-!
# Log levels

The named levels and their numbers. Where a level is configured its name must be spelled exactly;
the environment may also give it in any case and between blanks.
-/

namespace Debounce

/-- A named log level. -/
inductive Level where
  | critical
  | fatal
  | error
  | warn
  | warning
  | info
  | debug
  | notset
  deriving DecidableEq

namespace Level

/-- All levels. -/
def all : List Level := [critical, fatal, error, warn, warning, info, debug, notset]

/-- The name of a level. -/
def name : Level → String
  | critical => "CRITICAL"
  | fatal => "FATAL"
  | error => "ERROR"
  | warn => "WARN"
  | warning => "WARNING"
  | info => "INFO"
  | debug => "DEBUG"
  | notset => "NOTSET"

/-- The number of a level; two pairs of names share theirs. -/
def number : Level → Int
  | critical | fatal => 50
  | error => 40
  | warn | warning => 30
  | info => 20
  | debug => 10
  | notset => 0

/-- The level with exactly this name. -/
def ofName? (name : String) : Option Level := all.find? (·.name = name)

/-- The level with this name in any case, between blanks. -/
def ofLooseName? (text : String) : Option Level :=
  ofName? (String.ofList ((Text.trim Text.isBlank text.toList).map Text.capital))

end Level

/-- The level of a logger: a number, or a flag that counts as one or zero. -/
inductive Threshold where
  | number (n : Int)
  | flag (b : Bool)
  deriving DecidableEq

namespace Threshold

/-- The number that levels are compared with. -/
def toInt : Threshold → Int
  | number n => n
  | flag b => b.toNat

/-- Reads a level that is given as a number, as a flag or by its exact name. -/
def ofValue : Value → Except Fault Threshold
  | .int n => .ok (number n)
  | .bool b => .ok (flag b)
  | .text name => match Level.ofName? name with
      | some level => .ok (number level.number)
      | none => .error (.unknownLevel name)
  | value => .error (.notALevel value.constructorText)

end Threshold

end Debounce
