import Debounce.Duration

/-!
# Debounce intervals

An interval bounds the spacing between executions: a least spacing and, optionally, a greatest
one. That neither is negative and that they are in order is part of the type.
-/

namespace Debounce

/-- The least and the optional greatest spacing between executions. -/
structure Interval where
  begin : Duration
  limit? : Option Duration
  begin_nonneg : Duration.zero ≤ begin
  begin_le_limit : ∀ last, limit? = some last → begin ≤ last

namespace Interval

theorem ext_parts {a b : Interval} (begins : a.begin = b.begin) (limits : a.limit? = b.limit?) :
    a = b := by
  cases a; cases b
  cases begins; cases limits
  rfl

instance : DecidableEq Interval := fun a b =>
  decidable_of_iff (a.begin = b.begin ∧ a.limit? = b.limit?)
    ⟨fun ⟨begins, limits⟩ => ext_parts begins limits, fun equal => equal ▸ ⟨rfl, rfl⟩⟩

/-- The fields by name, with the given text between them. -/
def fieldsText (interval : Interval) (separator : String) : String :=
  "begin=" ++ interval.begin.constructorText ++ separator ++ "end="
    ++ (match interval.limit? with
      | none => "None"
      | some last => last.constructorText)

/-- The constructor form of an interval. -/
def constructorText (interval : Interval) : String :=
  "DebounceInterval(" ++ interval.fieldsText ", " ++ ")"

end Interval

end Debounce
