import Debounce.Interval
import Debounce.Decimal.Layout
import Debounce.Text.Quoted

/-!
# Values

Policies and settings are given as loosely typed values, works take and return them, and events
carry them. This module holds the type of these values, the names of their kinds, and the two
texts of a value: the constructor form, from which it can be told apart from others, and the
display form.
-/

namespace Debounce

/-- A loosely typed value. -/
inductive Value where
  | null
  | bool (b : Bool)
  | int (n : Int)
  | float (x : Float)
  | text (s : String)
  | bytes (content : List UInt8)
  | list (items : List Value)
  | tuple (items : List Value)
  | mapping (fields : List (String × Value))
  | duration (span : Duration)
  | interval (bounds : Interval)
  deriving Inhabited

namespace Value

/-- The name of a value's kind. -/
def kindName : Value → String
  | null => "NoneType"
  | bool _ => "bool"
  | int _ => "int"
  | float _ => "float"
  | text _ => "str"
  | bytes _ => "bytes"
  | list _ => "list"
  | tuple _ => "tuple"
  | mapping _ => "dict"
  | duration _ => "datetime.timedelta"
  | interval _ => "DebounceInterval"

mutual

/-- The constructor form of a value. -/
def constructorText : Value → String
  | null => "None"
  | bool b => if b then "True" else "False"
  | int n => toString n
  | float x => Decimal.seconds.text x
  | text s => Text.quoted s
  | bytes content => Text.quotedBytes content
  | list items => "[" ++ ", ".intercalate (itemTexts items) ++ "]"
  | tuple items =>
      "(" ++ ", ".intercalate (itemTexts items) ++ (if items.length = 1 then ",)" else ")")
  | mapping fields => "\x7b" ++ ", ".intercalate (fieldTexts fields) ++ "\x7d"
  | duration span => span.constructorText
  | interval bounds => bounds.constructorText

/-- The constructor forms of several values. -/
def itemTexts : List Value → List String
  | [] => []
  | item :: rest => item.constructorText :: itemTexts rest

/-- The fields of a mapping: quoted name, colon and constructor form. -/
def fieldTexts : List (String × Value) → List String
  | [] => []
  | (name, value) :: rest => (Text.quoted name ++ ": " ++ value.constructorText) :: fieldTexts rest

end

/-- The display form of a value: plain text and clock forms stand without quotes and names. -/
def displayText : Value → String
  | text s => s
  | duration span => span.clockText
  | interval bounds => bounds.fieldsText " "
  | value => value.constructorText

/-- The field of a mapping with the given name. -/
def field? (fields : List (String × Value)) (name : String) : Option Value := fields.lookup name

end Value

end Debounce
