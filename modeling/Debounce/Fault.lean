import Debounce.Complaint
import Debounce.Settings

/-!
# Faults and replies

An operation either answers or fails. This module holds the causes of failure, their names and
texts, and the kinds of answers.
-/

namespace Debounce

/-- The kinds of failure that a work can end with. -/
inductive FailureKind where
  | value
  | runtime
  | key
  | zeroDivision
  | stopIteration
  deriving DecidableEq

/-- The name of a kind of failure. -/
def FailureKind.name : FailureKind → String
  | value => "ValueError"
  | runtime => "RuntimeError"
  | key => "KeyError"
  | zeroDivision => "ZeroDivisionError"
  | stopIteration => "StopIteration"

/-- Why an operation failed. -/
inductive Fault where
  /-- A work failed on its own account. -/
  | raised (kind : FailureKind) (arguments : List Value)
  /-- A debouncer was called before any work was supplied. -/
  | noWork
  /-- A timing policy was refused. -/
  | invalidPolicy (complaints : List Complaint)
  /-- The environment was refused. -/
  | invalidEnvironment (complaints : List Complaint)
  /-- A group of fields was refused. -/
  | invalidFields (complaints : List Complaint)
  /-- A work without a source location, or no work, was to serve as its own key. -/
  | noKey (work : Option String)
  /-- A duration was below the least one. -/
  | durationUnderflow
  /-- A value does not have the attribute that was asked of it. -/
  | noAttribute (kindName wanted : String)
  /-- A key holds a list or a mapping. -/
  | unhashable (kindName : String)
  /-- A value is no number of seconds. -/
  | notANumber (kindName : String)
  /-- A text is no number of seconds. -/
  | badNumber (quoted : String)
  /-- An integer is too large for a number of seconds. -/
  | hugeNumber
  /-- Nothing was there to be run. -/
  | notCallable
  /-- A level name is not spelled exactly. -/
  | unknownLevel (name : String)
  /-- A level is neither a number nor a name. -/
  | notALevel (text : String)
  /-- A keyword names an argument that has been given already. -/
  | repeatedArgument (function argument : String)

namespace Fault

/-- The names of refused environment variables, each once, in the order of their first mention. -/
def distinctNames (names : List String) : String :=
  ", ".intercalate (names.foldl (fun seen name =>
    if seen.contains name then seen else seen ++ [name]) [])

/-- The name of the kind of fault. -/
def name : Fault → String
  | raised kind _ => kind.name
  | noWork => "NoWorkProvidedError"
  | invalidPolicy _ | invalidEnvironment _ => "ConfigurationError"
  | invalidFields _ => "ValidationError"
  | noKey _ | unhashable _ | notANumber _ | notCallable | notALevel _ | repeatedArgument _ _ =>
      "TypeError"
  | badNumber _ | unknownLevel _ => "ValueError"
  | hugeNumber | durationUnderflow => "OverflowError"
  | noAttribute _ _ => "AttributeError"

/-- The arguments that a fault carries. -/
def arguments : Fault → List Value
  | raised _ arguments => arguments
  | noWork => [.text "No work has been provided"]
  | invalidPolicy complaints =>
      [.text ("Invalid debounce settings: " ++ Complaint.texts complaints)]
  | invalidEnvironment complaints =>
      [.text ("Invalid environment variables: "
        ++ distinctNames (complaints.filterMap fun complaint => complaint.path.head?))]
  | invalidFields complaints => [.text (Complaint.texts complaints)]
  | noKey work =>
      let shown := match work with
        | none => "None"
        | some name => "<work " ++ name ++ ">"
      [.text ("Cannot derive a debounce key for " ++ shown ++ "; pass key= explicitly")]
  | durationUnderflow => [.text "days=-1000000000; must have magnitude <= 999999999"]
  | noAttribute kindName wanted =>
      [.text ("'" ++ kindName ++ "' object has no attribute '" ++ wanted ++ "'")]
  | unhashable kindName => [.text ("unhashable type: '" ++ kindName ++ "'")]
  | notANumber kindName =>
      [.text ("float() argument must be a string or a real number, not '" ++ kindName ++ "'")]
  | badNumber quoted => [.text ("could not convert string to float: " ++ quoted)]
  | hugeNumber => [.text "int too large to convert to float"]
  | notCallable => [.text "'NoneType' object is not callable"]
  | unknownLevel name => [.text ("Unknown level: " ++ Text.quoted name)]
  | notALevel text => [.text ("Level not an integer or a valid string: " ++ text)]
  | repeatedArgument function argument =>
      [.text (function ++ "() got multiple values for argument '" ++ argument ++ "'")]

/-- The text of a fault: its only argument, or all of them in parentheses. The argument of a key
failure stands in its constructor form. -/
def message (fault : Fault) : String :=
  match fault.arguments, fault with
  | [], _ => ""
  | [argument], .raised .key _ => argument.constructorText
  | [argument], _ => argument.displayText
  | arguments, _ => (Value.tuple arguments).constructorText

/-- The constructor form of a fault. -/
def constructorText (fault : Fault) : String :=
  fault.name ++ "(" ++ ", ".intercalate (Value.itemTexts fault.arguments) ++ ")"

/-- The fault of a check, where complaints make the given one. -/
def ofObjection (invalid : List Complaint → Fault) : Objection (List Complaint) → Fault
  | .refused complaints => invalid complaints
  | .underflow => durationUnderflow

/-- The complaints behind a fault. -/
def complaints : Fault → List Complaint
  | invalidPolicy complaints | invalidEnvironment complaints | invalidFields complaints =>
      complaints
  | _ => []

end Fault

/-- What an operation answers. -/
inductive Answer (τ : Type) where
  | nothing
  | flag (b : Bool)
  | count (n : Nat)
  | instant (t : τ)
  | value (v : Value)
  | policy (settings : Settings)
  | debouncer (text : String) (settings : Settings)
  /-- The thing that the operation names does not exist. -/
  | missing

/-- The outcome of an operation. -/
abbrev Reply (τ : Type) := Except Fault (Answer τ)

end Debounce
