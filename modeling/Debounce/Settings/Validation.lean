import Debounce.Fault
import Debounce.Value.Reading

/-!
# Checking settings

An interval may be given as an interval, as a single duration, as a pair of a begin and an end,
or as a mapping. All shapes but the first are brought into the form of a mapping, whose fields
are then read; begin and end are compared only if both could be read.
-/

namespace Debounce

namespace Interval

/-- Reads the fields `begin` and `end` of a mapping. The path leads to the mapping. -/
def ofFields (path : List String) (fields : List (String × Value)) : Checked Interval :=
  let begin? := Checked.atPath (path ++ ["begin"]) (match Value.field? fields "begin" with
    | none => .error (.refused .missing)
    | some value => value.toSpan .negativeInterval)
  let limit? := Checked.atPath (path ++ ["end"]) (match Value.field? fields "end" with
    | none => .ok none
    | some value => value.toSpan? .negativeInterval)
  match Checked.both begin? limit? with
  | .error objection => .error objection
  | .ok (begin, last?) =>
      if ordered : ∀ last, last?.map Subtype.val = some last → begin.val ≤ last then
        .ok ⟨begin.val, last?.map Subtype.val, begin.property, ordered⟩
      else Checked.refuse path .endBeforeBegin

/-- The forms of an interval after its shape has been settled. -/
inductive Shape where
  | absent
  | given (interval : Interval)
  | fields (fields : List (String × Value))

/-- Settles the shape of an interval. A sequence must be a pair, and anything that is neither an
interval nor a sequence nor a mapping counts as a begin without an end. -/
def Shape.ofValue : Value → Except Refusal Shape
  | .null => .ok .absent
  | .interval bounds => .ok (.given bounds)
  | .mapping entries => .ok (.fields entries)
  | .list [begin, last] | .tuple [begin, last] => .ok (.fields [("begin", begin), ("end", last)])
  | .list _ | .tuple _ => .error .notAPair
  | begin => .ok (.fields [("begin", begin)])

/-- Reads an optional interval of any shape. -/
def ofValue (path : List String) (value : Value) : Checked (Option Interval) :=
  match Shape.ofValue value with
  | .error refusal => Checked.refuse path refusal
  | .ok .absent => .ok none
  | .ok (.given bounds) => .ok (some bounds)
  | .ok (.fields fields) => (ofFields path fields).map some

end Interval

namespace Settings

/-- Reads a policy from its three parts, which may be of any shape. -/
def check (interval leading idleTime : Value) : Checked Settings :=
  let interval? := Interval.ofValue ["interval"] interval
  let leading? := Checked.plainAtPath ["leading"] leading.toFlag
  let idleTime? := Checked.atPath ["idle_time"] (idleTime.toSpan? .negativeIdleTime)
  match Checked.both interval? (Checked.both leading? idleTime?) with
  | .error objection => .error objection
  | .ok (bounds, edge, idle?) =>
      .ok
        { interval := bounds
          leading := edge
          idleTime := idle?.map Subtype.val
          idleTime_nonneg := by
            intro idle equal
            cases idle? with
            | none => simp at equal
            | some span =>
                simp only [Option.map_some, Option.some.injEq] at equal
                exact equal ▸ span.property }

/-- Reads a policy from a mapping; a part that is not given has its default. -/
def ofFields (fields : List (String × Value)) : Checked Settings :=
  check ((Value.field? fields "interval").getD .null)
    ((Value.field? fields "leading").getD (.bool false))
    ((Value.field? fields "idle_time").getD .null)

/-- Reads a policy, or fails with the complaints about it. -/
def build (interval leading idleTime : Value) : Except Fault Settings :=
  (check interval leading idleTime).mapError (Fault.ofObjection .invalidPolicy)

/-- The outcome of assigning a field of a policy or of an interval. Both are fixed once made; but a
name that begins with an underscore is not that of a field, and assigning it changes nothing. -/
def assign (name : String) : Except Fault Unit :=
  if name.startsWith "_" then .ok ()
  else .error (.invalidFields [⟨[name], .unchangeable⟩])

/-- The outcome of assigning a field of the interval of a policy. -/
def assignInInterval (settings : Settings) (name : String) : Except Fault Unit :=
  match settings.interval with
  | none => .error (.noAttribute Value.null.kindName name)
  | some _ => assign name

end Settings

end Debounce
