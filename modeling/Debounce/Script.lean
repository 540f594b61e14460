import Debounce.Fault

/-!
# Scripts and works

A script is a program that performs operations, sees their replies and ends with a reply of its
own. A work is a unit of work that debouncers and timers run: whenever it runs it is a script. A
script may ask how often a work has begun to run, so a work can act differently from run to run.
-/

namespace Debounce

/-- What tells works apart. Works with the same identity count their runs together. -/
abbrev WorkId := List Nat

/-- A program over operations of type `Op` with replies of type `R`. -/
inductive Script (Op R : Type) where
  | done (reply : R)
  | step (op : Op) (next : R → Script Op R)
  | runs (work : WorkId) (next : Nat → Script Op R)

namespace Script

variable {Op R : Type}

/-- Performs operations in order, whatever their replies, and goes on with another script. -/
def before (ops : List Op) (last : Script Op R) : Script Op R :=
  match ops with
  | [] => last
  | op :: rest => step op fun _ => before rest last

/-- Performs one operation and ends with its reply. -/
def perform (op : Op) : Script Op R := step op done

end Script

/-- The arguments that a work is called with. -/
structure Arguments where
  positional : List Value := []
  named : List (String × Value) := []

/-- A unit of work. -/
structure Work (Op R : Type) where
  id : WorkId
  name : String
  /-- The file and the line where it is defined, if it is known. -/
  source : Option (String × Int) := none
  /-- What it does when it runs. -/
  body : Arguments → Script Op R

/-- How often each work has begun to run. -/
abbrev Runs := WorkId → Nat

namespace Runs

/-- Nothing has run. -/
def none : Runs := fun _ => 0

/-- Counts one more run of a work. -/
def count (runs : Runs) (work : WorkId) : Runs :=
  fun other => if other = work then runs other + 1 else runs other

end Runs

end Debounce
