import Debounce.Proofs.Policies
import Debounce.Proofs.Registrations

/-!
# Shapes of intervals

The same range can be written in several shapes: as a list or tuple of its begin and its end, as a
mapping, or by its begin alone if it has no end. What a policy comes to, settings or complaints, only
depends on the begin and the end that are written, so the shapes can be used for one another, and an
interval that has been made can be used for what it was made from. The parts of a policy are values
again, from which the same policy is built.
-/

namespace Debounce

variable {one other interval leading idleTime : Value} {begin? last? : Option Value}

/-! ## Ranges that are written alike -/

namespace Interval

variable {path : List String}

/-- Two values that are written with the same begin and end are read alike. -/
theorem ofValue_congr (written : one.Gives begin? last?) (alike : other.Gives begin? last?) :
    ofValue path one = ofValue path other := by
  rw [ofValue_of_gives written, ofValue_of_gives alike]

/-- An end that is absent counts as none. -/
theorem ofValue_of_absent_end (closed : one.Gives begin? (some .null))
    (written : other.Gives begin? none) : ofValue path one = ofValue path other := by
  rw [ofValue_of_gives closed, ofValue_of_gives written]
  rfl

/-- An interval is read as itself, and so is a range that is written with the begin and end that it
was made from. -/
theorem ofValue_of_ofFields {fields : List (String × Value)} {bounds : Interval}
    {elsewhere : List String} (made : ofFields elsewhere fields = .ok bounds)
    (written : one.Gives (Value.field? fields "begin") (Value.field? fields "end")) :
    ofValue path (.interval bounds) = ofValue path one := by
  rw [ofFields_eq_checkRange, checkRange_eq_ok] at made
  rw [ofValue_of_gives written, checkRange_eq_ok.mpr made]
  rfl

end Interval

/-- What is below the least duration in a range that is written is its begin or its end. -/
theorem Value.rangeUnderflows_of_gives (written : one.Gives begin? last?) :
    one.RangeUnderflows ↔ ∃ part, (begin? = some part ∨ last? = some part) ∧ part.Underflows := by
  have read : Interval.ofValue [] one = .error .underflow ↔ one.RangeUnderflows :=
    Interval.ofValue_eq_underflow
  rw [← read, Interval.ofValue_of_gives written, map_eq_error, Interval.checkRange_eq_underflow]

/-! ## Policies that come to the same -/

namespace Settings

/-- The outcome of building a policy is a policy, or a refusal with complaints. -/
def IsSettled (outcome : Except Fault Settings) : Prop :=
  (∃ settings, outcome = .ok settings) ∨
    ∃ fault, outcome = .error fault ∧ fault.name = "ConfigurationError"

theorem build_congr
    (alike : Interval.ofValue ["interval"] one = Interval.ofValue ["interval"] other) :
    build one leading idleTime = build other leading idleTime := by
  simp only [build, check, alike]

/-- The outcome is settled unless a duration is below the least one. -/
theorem isSettled_build_iff :
    IsSettled (build interval leading idleTime) ↔
      ¬ (interval.RangeUnderflows ∨ idleTime.Underflows) := by
  rw [← build_eq_underflow leading]
  cases built : build interval leading idleTime with
  | ok settings => simp [IsSettled]
  | error fault =>
      obtain ⟨objection, -, rfl⟩ := build_eq_error.mp built
      cases objection with
      | refused complaints => simp [IsSettled, Fault.ofObjection, Fault.name]
      | underflow => simp [IsSettled, Fault.ofObjection, Fault.name]

/-- A list, a tuple and a mapping with the same begin and end come to the same policy or to the same
refusal, whatever the other parts are; so do a single value, the pair of this value and an absent end
and a mapping without an end; and so do an interval and the pair that it is made from. Each of these
outcomes is a policy or a refusal with complaints unless one of the durations is below the least one.
The policy that is built from the parts of a policy is this policy, and so is that of the debouncer
that is made from it. -/
theorem shapes_come_to_the_same {τ ω : Type} [Instant τ] (a b leading idleTime : Value)
    (settings : Settings) :
    let pair := build (.tuple [a, b]) leading idleTime
    let single := build a leading idleTime
    (build (.list [a, b]) leading idleTime = pair ∧
      (∀ entries, Value.field? entries "begin" = some a → Value.field? entries "end" = some b →
        build (.mapping entries) leading idleTime = pair) ∧
      (IsSettled pair ↔ ¬ (a.Underflows ∨ b.Underflows ∨ idleTime.Underflows))) ∧
    (a.IsSingle →
      build (.tuple [a, .null]) leading idleTime = single ∧
      (∀ entries, Value.field? entries "begin" = some a → Value.field? entries "end" = none →
        build (.mapping entries) leading idleTime = single) ∧
      (IsSettled single ↔ ¬ (a.Underflows ∨ idleTime.Underflows))) ∧
    (∀ bounds, Interval.ofFields [] [("begin", a), ("end", b)] = .ok bounds →
      build (.interval bounds) leading idleTime = pair) ∧
    build settings.intervalValue settings.leadingValue settings.idleTimeValue = .ok settings ∧
    ∀ (name : Value) (now : τ), ∃ debouncer : Debouncer τ ω,
      Debouncer.ofSettings settings name now = .ok debouncer ∧ debouncer.settings = settings := by
  intro pair single
  have written : (Value.tuple [a, b]).Gives (some a) (some b) := .tuple a b
  refine ⟨⟨?_, ?_, ?_⟩, ?_, ?_, ?_, ?_⟩
  · exact build_congr (Interval.ofValue_congr (.list a b) written)
  · intro entries begins ends
    apply build_congr
    exact Interval.ofValue_congr (begins ▸ ends ▸ .mapping entries) written
  · rw [isSettled_build_iff, Value.rangeUnderflows_of_gives written]
    simp [or_and_right, exists_or, or_assoc]
  · intro isSingle
    have alone : a.Gives (some a) none := .single isSingle
    refine ⟨?_, ?_, ?_⟩
    · exact build_congr (Interval.ofValue_of_absent_end (.tuple a .null) alone)
    · intro entries begins ends
      apply build_congr
      exact Interval.ofValue_congr (begins ▸ ends ▸ .mapping entries) alone
    · rw [isSettled_build_iff, Value.rangeUnderflows_of_gives alone]
      simp
  · intro bounds made
    exact build_congr (Interval.ofValue_of_ofFields made written)
  · exact mapError_eq_ok.mpr (check_values settings)
  · intro name now
    exact ⟨.new settings name now, Debouncer.ofSettings_eq settings name now, by simp [Debouncer.new]⟩

/-- The list and the tuple of a begin far below zero and an absent end fail alike, but this is no
policy and no refusal with complaints. -/
theorem shapes_unsettled :
    let begin : Value := .int (-86399999999999)
    ¬ IsSettled (build (.list [begin, .null]) (.bool false) .null) ∧
      ¬ IsSettled (build (.tuple [begin, .null]) (.bool false) .null) := by
  intro begin
  have underflows : begin.Underflows := rfl
  constructor
  · rw [isSettled_build_iff, not_not, Value.rangeUnderflows_of_gives (.list begin .null)]
    exact .inl ⟨begin, .inl rfl, underflows⟩
  · rw [isSettled_build_iff, not_not, Value.rangeUnderflows_of_gives (.tuple begin .null)]
    exact .inl ⟨begin, .inl rfl, underflows⟩

end Settings

end Debounce
