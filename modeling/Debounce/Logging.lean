import Debounce.Environment.Cache

/-!
# Structured log lines

The root logger is configured with a level and then writes one line of fields per event. A line
holds the bound context, the keywords of the event, which win over the context, the event and the
level of the method that was used. Lines below the root level are not written. An event whose
keywords name an argument of the logger's own is refused whatever its level.
-/

namespace Debounce

/-- Named values. -/
abbrev Fields := List (String × Value)

namespace Fields

/-- Sets a field, in its place if there is one with the same name, at the end otherwise. -/
def set (fields : Fields) (name : String) (value : Value) : Fields :=
  match fields with
  | [] => [(name, value)]
  | (other, old) :: rest =>
      if other = name then (name, value) :: rest else (other, old) :: set rest name value

/-- Sets several fields in order. -/
def merge (fields others : Fields) : Fields :=
  others.foldl (fun merged (name, value) => merged.set name value) fields

/-- Removes a field. -/
def erase (fields : Fields) (name : String) : Fields := fields.filter (·.1 ≠ name)

end Fields

/-- The methods of a logger. -/
inductive LogMethod where
  | debug
  | info
  | warning
  | warn
  | error
  | exception
  | critical
  | fatal
  deriving DecidableEq

namespace LogMethod

/-- The level that a method writes at. -/
def level : LogMethod → Level
  | debug => .debug
  | info => .info
  | warning | warn => .warning
  | error | exception => .error
  | critical | fatal => .critical

/-- The name of that level in a line. -/
def levelText (method : LogMethod) : String := method.level.name.toLower

/-- What a fault calls the method. The report of an exception is a function of its own, and the
other methods are made alike, one for each level. -/
def functionName : LogMethod → String
  | exception => "exception"
  | _ => "_make_filtering_bound_logger.<locals>.make_method.<locals>.meth"

/-- The method of the given name. -/
def ofName? : String → Option LogMethod
  | "debug" => some debug
  | "info" => some info
  | "warning" => some warning
  | "warn" => some warn
  | "error" => some error
  | "exception" => some exception
  | "critical" => some critical
  | "fatal" => some fatal
  | _ => none

end LogMethod

/-- The root logger: its level, whether it has a handler to write with, and the bound context. -/
structure Logger where
  rootLevel : Threshold := .number 30
  handled : Bool := false
  context : Fields := []

namespace Logger

/-- Gives a root logger without a handler one, and the given level. -/
def setUp (logger : Logger) (level : Value) : Except Fault Logger :=
  if logger.handled then .ok logger
  else match Threshold.ofValue level with
    | .ok threshold => .ok { logger with rootLevel := threshold, handled := true }
    | .error fault => .error fault

/-- Configures the root logger: the level is the given one, or else that of the process-wide
settings. -/
def configure (logger : Logger) (level? : Option Value) (process : Process) :
    Except Fault Logger × Process :=
  match level?.getD .null with
  | .null => match process.settings with
      | (.ok reading, process) =>
          (logger.setUp (.text reading.settings.level.name), process)
      | (.error fault, process) => (.error fault, process)
  | level => (logger.setUp level, process)

/-- Binds context variables. -/
def bind (logger : Logger) (bindings : Fields) : Logger :=
  { logger with context := logger.context.merge bindings }

/-- The fields of a line, apart from its time stamp. A report of an exception asks for details of
the exception unless told otherwise, and an event that is `null` is left out. -/
def line (logger : Logger) (method : LogMethod) (event : Value) (keywords : Fields) : Fields :=
  let details : Fields := if method = .exception then [("exc_info", .bool true)] else []
  let fields := (logger.context.merge details).merge keywords
  let fields := match event with
    | .null => fields
    | event => fields.set "event" event
  ((fields.set "level" (.text method.levelText)).erase "timestamp")

/-- Checks that no keyword names an argument that the function has been given already. The first
such keyword counts. -/
def checkKeywords (function : String) (given : List String) (keywords : Fields) :
    Except Fault Unit :=
  match keywords.find? fun (name, _) => given.contains name with
  | some (name, _) => .error (.repeatedArgument function name)
  | none => .ok ()

/-- Handles an event. The keywords pass the method and then the step that builds the line. There is
a line if there is a handler and the event's level reaches the root level. -/
def write (logger : Logger) (method : LogMethod) (event : Value) (keywords : Fields) :
    Except Fault (Option Fields) := do
  checkKeywords method.functionName ["self", "event"] keywords
  checkKeywords "BoundLoggerBase._proxy_to_logger" ["method_name"] keywords
  if logger.handled && logger.rootLevel.toInt ≤ method.level.number then
    .ok (some (logger.line method event keywords))
  else .ok none

end Logger

end Debounce
