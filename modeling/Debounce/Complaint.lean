import Debounce.Duration.Text
import Debounce.Text.Quoted

/-!
# Complaints

A complaint says where in a group of fields a value was refused, and why. Checking a group of
fields gathers the complaints of all of them, in the order of the fields.
-/

namespace Debounce

/-- Why a value was refused. -/
inductive Refusal where
  | missing
  | notADuration
  | badDuration (flaw : Duration.TextFlaw)
  | negativeInterval
  | negativeIdleTime
  | endBeforeBegin
  | notAPair
  | notAFlag
  | unclearFlag
  | notAnInteger
  | badInteger
  | longInteger
  | fractionalInteger
  | infiniteInteger
  | notAText
  | badEncoding
  | unknownLevel (name : String)
  | noWorkers
  | notAMapping
  | unchangeable
  deriving DecidableEq

namespace Refusal

/-- A word for the kind of refusal. -/
def tag : Refusal → String
  | missing => "missing"
  | notADuration => "time_delta_type"
  | badDuration _ => "time_delta_parsing"
  | negativeInterval | negativeIdleTime | endBeforeBegin | notAPair | unknownLevel _
  | noWorkers => "value_error"
  | notAFlag => "bool_type"
  | unclearFlag => "bool_parsing"
  | notAnInteger => "int_type"
  | badInteger => "int_parsing"
  | longInteger => "int_parsing_size"
  | fractionalInteger => "int_from_float"
  | infiniteInteger => "finite_number"
  | notAText => "string_type"
  | badEncoding => "string_unicode"
  | notAMapping => "model_type"
  | unchangeable => "frozen_instance"

/-- The reason in words. -/
def message : Refusal → String
  | missing => "Field required"
  | notADuration => "Input should be a valid timedelta"
  | badDuration flaw => "Input should be a valid timedelta, " ++ flaw.message
  | negativeInterval => "Value error, Debounce intervals cannot be negative"
  | negativeIdleTime => "Value error, Idle time cannot be negative"
  | endBeforeBegin => "Value error, Interval begin must not be later than its end"
  | notAPair => "Value error, An interval range needs exactly a begin and an end"
  | notAFlag => "Input should be a valid boolean"
  | unclearFlag => "Input should be a valid boolean, unable to interpret input"
  | notAnInteger => "Input should be a valid integer"
  | badInteger => "Input should be a valid integer, unable to parse string as an integer"
  | longInteger => "Unable to parse input string as an integer, exceeded maximum size"
  | fractionalInteger => "Input should be a valid integer, got a number with a fractional part"
  | infiniteInteger => "Input should be a finite number"
  | notAText => "Input should be a valid string"
  | badEncoding => "Input should be a valid string, unable to parse raw data as a unicode string"
  | unknownLevel name => "Value error, Unknown log level '" ++ name ++ "'"
  | noWorkers => "Value error, Callback workers must be greater than zero"
  | notAMapping => "Input should be a valid dictionary or instance of RuntimeSettings"
  | unchangeable => "Instance is frozen"

end Refusal

/-- A refusal and the path of field names to the refused value. -/
structure Complaint where
  path : List String
  refusal : Refusal
  deriving DecidableEq

namespace Complaint

/-- The path joined by points, or a word for the whole group, and the reason. -/
def text (complaint : Complaint) : String :=
  let place := ".".intercalate complaint.path
  (if place.isEmpty then "settings" else place) ++ ": " ++ complaint.refusal.message

/-- Several complaints in a row. -/
def texts (complaints : List Complaint) : String :=
  "; ".intercalate (complaints.map text)

end Complaint

/-- The outcome of a check that gathers complaints. -/
abbrev Checked (α : Type) := Except (Objection (List Complaint)) α

namespace Checked

/-- The outcome of a check with a single complaint. -/
def refuse {α : Type} (path : List String) (refusal : Refusal) : Checked α :=
  .error (.refused [⟨path, refusal⟩])

/-- Both results, or the complaints of both in order; an underflow ends the check. -/
def both {α β : Type} : Checked α → Checked β → Checked (α × β)
  | .ok a, .ok b => .ok (a, b)
  | .error .underflow, _ | _, .error .underflow => .error .underflow
  | .error objection, .ok _ => .error objection
  | .ok _, .error objection => .error objection
  | .error (.refused first), .error (.refused second) => .error (.refused (first ++ second))

/-- The result for a field: a refusal becomes a complaint at the given path. -/
def atPath {α : Type} (path : List String) (reading : Except (Objection Refusal) α) : Checked α :=
  reading.mapError (Objection.map fun refusal => [⟨path, refusal⟩])

/-- The result for a field whose reading can only be refused. -/
def plainAtPath {α : Type} (path : List String) (reading : Except Refusal α) : Checked α :=
  atPath path (reading.mapError Objection.refused)

end Checked

end Debounce
