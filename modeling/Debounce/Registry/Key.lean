import Debounce.Fault

/-!
# Keys

Debouncers are registered under values. A key must not hold a list or a mapping. Numbers of all
kinds are the same key if they are equal, `true` counting as one and `false` as zero, and tuples
are compared element by element; not-a-number differs from itself.
-/

namespace Debounce.Key

mutual

/-- The kind of the first part of a value that cannot be part of a key. -/
def obstacle? : Value → Option String
  | .list items => some (Value.list items).kindName
  | .mapping fields => some (Value.mapping fields).kindName
  | .tuple items => obstacleIn? items
  | _ => none

/-- The first obstacle among several values. -/
def obstacleIn? : List Value → Option String
  | [] => none
  | item :: rest => match obstacle? item with
      | some kindName => some kindName
      | none => obstacleIn? rest

end

/-- Accepts a value as a key. -/
def check (key : Value) : Except Fault Unit :=
  match obstacle? key with
  | some kindName => .error (.unhashable kindName)
  | none => .ok ()

/-- The integer that a number equals, if there is one. -/
def integer? : Value → Option Int
  | .bool b => some b.toNat
  | .int n => some n
  | .float x => (Decimal.Binary.ofFloat x).toInt?
  | _ => none

/-- The two numbers are equal; values of other kinds are not. -/
def sameNumber (a b : Value) : Bool :=
  match integer? a, integer? b with
  | some m, some n => m == n
  | none, none => match a, b with
      | .float x, .float y => x == y
      | _, _ => false
  | _, _ => false

mutual

/-- The two values are the same key. -/
def same : Value → Value → Bool
  | .null, .null => true
  | .text s, .text t => s == t
  | .bytes s, .bytes t => s == t
  | .tuple xs, .tuple ys => sameAll xs ys
  | .duration d, .duration e => d == e
  | .interval i, .interval j => i == j
  | a, b => sameNumber a b

/-- The two lists of values are the same keys in the same order. -/
def sameAll : List Value → List Value → Bool
  | [], [] => true
  | x :: xs, y :: ys => same x y && sameAll xs ys
  | _, _ => false

end

/-- The key of a work's place in the source: its file and line. -/
def ofSource (source : String × Int) : Value := .tuple [.text source.1, .int source.2]

end Debounce.Key
