import Debounce.Logging.Level
import Debounce.Value.Reading

/-!
# Process-wide settings

Two environment variables set the log level and the number of workers of the pool. This module
reads them from a group of fields or from a whole environment.
-/

namespace Debounce

/-- The process-wide settings; there is at least one worker. -/
structure ProcessSettings where
  level : Level := .info
  workers : Int := 4
  workers_pos : 0 < workers := by decide

namespace ProcessSettings

/-- The variable with the log level. -/
def levelVariable : String := "DEBOUNCER_LOG_LEVEL"

/-- The variable with the number of workers. -/
def workersVariable : String := "DEBOUNCER_CALLBACK_WORKERS"

/-- Reads the log level from a text in any case. -/
def readLevel (value : Value) : Except Refusal Level :=
  match value.toText with
  | .error refusal => .error refusal
  | .ok text => match Level.ofLooseName? text with
      | some level => .ok level
      | none => .error (.unknownLevel text)

/-- Reads a positive number of workers. -/
def readWorkers (value : Value) : Except Refusal { workers : Int // 0 < workers } :=
  match value.toInteger with
  | .error refusal => .error refusal
  | .ok workers => if positive : 0 < workers then .ok ⟨workers, positive⟩ else .error .noWorkers

/-- Reads the settings from a group of fields, which may hold others as well. -/
def ofFields (fields : List (String × Value)) : Checked ProcessSettings :=
  let level? := Checked.plainAtPath [levelVariable] (match Value.field? fields levelVariable with
    | none => .ok .info
    | some value => readLevel value)
  let workers? := Checked.plainAtPath [workersVariable] (match Value.field? fields workersVariable with
    | none => .ok ⟨4, by decide⟩
    | some value => readWorkers value)
  match Checked.both level? workers? with
  | .error objection => .error objection
  | .ok (level, workers) =>
      .ok { level := level, workers := workers.val, workers_pos := workers.property }

/-- Reads the settings from a value, which must be a group of fields. -/
def ofValue : Value → Checked ProcessSettings
  | .mapping fields => ofFields fields
  | _ => Checked.refuse [] .notAMapping

end ProcessSettings

/-- The environment variables by name. -/
abbrev Environment := List (String × String)

namespace Environment

/-- Sets or, without a value, removes a variable. -/
def set (environment : Environment) (name : String) (value? : Option String) : Environment :=
  let others := environment.filter (·.1 ≠ name)
  match value? with
  | none => others
  | some value => (name, value) :: others

/-- Reads the process-wide settings, or fails with the names of the offending variables. -/
def read (environment : Environment) : Except Fault ProcessSettings :=
  (ProcessSettings.ofFields (environment.map fun (name, value) => (name, .text value))).mapError
    (Fault.ofObjection .invalidEnvironment)

end Environment

end Debounce
