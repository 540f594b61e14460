import Debounce.Settings.Validation

/-!
# Checks that gather complaints

A reading can be refused or end with an underflow, and a check of several fields puts the readings
of its fields together. It succeeds if all of them do, it ends with an underflow if one of them does,
and otherwise it gathers the complaints of all of them in the order of the fields.
-/

namespace Debounce

section Except

variable {ε δ α β : Type} {reading : Except ε α}

@[simp] theorem mapError_ok {view : ε → δ} {a : α} :
    (Except.ok a).mapError view = .ok a := rfl

@[simp] theorem mapError_error {view : ε → δ} {e : ε} :
    (Except.error e : Except ε α).mapError view = .error (view e) := rfl

theorem mapError_eq_ok {view : ε → δ} {a : α} :
    reading.mapError view = .ok a ↔ reading = .ok a := by
  cases reading <;> simp

theorem mapError_eq_error {view : ε → δ} {failure : δ} :
    reading.mapError view = .error failure ↔ ∃ e, reading = .error e ∧ view e = failure := by
  cases reading <;> simp

theorem map_eq_ok {view : α → β} {b : β} :
    reading.map view = .ok b ↔ ∃ a, reading = .ok a ∧ view a = b := by
  cases reading <;> simp [Except.map]

theorem map_eq_error {view : α → β} {failure : ε} :
    reading.map view = .error failure ↔ reading = .error failure := by
  cases reading <;> simp [Except.map]

end Except

theorem Objection.map_eq_underflow {ε δ : Type} {view : ε → δ} {objection : Objection ε} :
    objection.map view = .underflow ↔ objection = .underflow := by
  cases objection <;> simp [Objection.map]

/-! ## Durations -/

namespace Value

variable {value : Value} {negative : Refusal} {span : { span : Duration // Duration.zero ≤ span }}

/-- A reading that succeeds does not depend on how it would have been refused. -/
theorem toSpan_eq_ok : value.toSpan negative = .ok span ↔ value.toDuration = .ok span.val := by
  rw [toSpan]
  split
  · next duration read =>
      split
      · next nonneg => simp [read, Subtype.ext_iff]
      · next below =>
          simp only [reduceCtorEq, read, Except.ok.injEq, false_iff]
          rintro rfl
          exact below span.property
  · next objection failed => simp [failed]

theorem toSpan_eq_underflow :
    value.toSpan negative = .error .underflow ↔ value.toDuration = .error .underflow := by
  rw [toSpan]
  split
  · next duration read =>
      split <;> simp [read]
  · next objection failed => simp [failed]

theorem toSpan?_of_toSpan (read : value.toSpan negative = .ok span) (other : Refusal) :
    value.toSpan? other = .ok (some span) := by
  have again : value.toSpan other = .ok span := toSpan_eq_ok.mpr (toSpan_eq_ok.mp read)
  rw [toSpan?, again]
  · rfl
  · rintro rfl
    cases toSpan_eq_ok.mp read

theorem toSpan?_of_ne_null (given : value ≠ .null) :
    value.toSpan? negative = (value.toSpan negative).map some := by
  rw [toSpan?.eq_def]
  split
  · contradiction
  · rfl

theorem toSpan?_eq_underflow :
    value.toSpan? negative = .error .underflow ↔ value.toDuration = .error .underflow := by
  by_cases absent : value = .null
  · subst absent
    simp [toSpan?, toDuration]
  · rw [toSpan?_of_ne_null absent, map_eq_error, toSpan_eq_underflow]

end Value

/-! ## Fields -/

/-- The names of the parts that complaints are about. -/
def Complaint.parts (complaints : List Complaint) : List String :=
  complaints.filterMap fun complaint => complaint.path.head?

theorem Complaint.parts_append (complaints others : List Complaint) :
    parts (complaints ++ others) = parts complaints ++ parts others := List.filterMap_append

namespace Checked

variable {α β : Type} {path : List String}

/-- The complaints that a check has gathered. -/
def complaints : Checked α → List Complaint
  | .error (.refused complaints) => complaints
  | .ok _ | .error .underflow => []

theorem atPath_eq_ok {reading : Except (Objection Refusal) α} {a : α} :
    atPath path reading = .ok a ↔ reading = .ok a := mapError_eq_ok

theorem plainAtPath_eq_ok {reading : Except Refusal α} {a : α} :
    plainAtPath path reading = .ok a ↔ reading = .ok a := atPath_eq_ok.trans mapError_eq_ok

theorem atPath_eq_underflow {reading : Except (Objection Refusal) α} :
    atPath path reading = .error .underflow ↔ reading = .error .underflow := by
  simp [atPath, mapError_eq_error, Objection.map_eq_underflow]

/-- A reading that can only be refused never ends with an underflow. -/
theorem plainAtPath_ne_underflow {reading : Except Refusal α} :
    plainAtPath path reading ≠ .error .underflow := by
  simp [plainAtPath, atPath_eq_underflow, mapError_eq_error]

variable {first : Checked α} {second : Checked β}

theorem both_eq_ok {a : α} {b : β} :
    both first second = .ok (a, b) ↔ first = .ok a ∧ second = .ok b := by
  constructor
  · intro read
    rw [both.eq_def] at read
    split at read
    · simpa using read
    · cases read
    · cases read
    · cases read
    · cases read
    · cases read
  · rintro ⟨rfl, rfl⟩
    rfl

theorem both_eq_underflow :
    both first second = .error .underflow ↔
      first = .error .underflow ∨ second = .error .underflow := by
  rcases first with (_ | _) | _ <;> rcases second with (_ | _) | _ <;> simp [both]

/-- Unless it ends with an underflow, a check of two parts gathers the complaints of both. -/
theorem complaints_both (first_ne : first ≠ .error .underflow)
    (second_ne : second ≠ .error .underflow) :
    (both first second).complaints = first.complaints ++ second.complaints := by
  rcases first with (_ | _) | _ <;> rcases second with (_ | _) | _ <;>
    simp_all [both, complaints]

/-- A check of one part: its complaints are about this part, and it is not refused without any. -/
structure IsAbout (part : String) (check : Checked α) : Prop where
  named : ∀ complaint ∈ check.complaints, complaint.path.head? = some part
  complains : check ≠ .error (.refused [])

namespace IsAbout

variable {part : String} {check : Checked α}

theorem refuse (head : path.head? = some part) (refusal : Refusal) :
    IsAbout part (Checked.refuse path refusal : Checked α) where
  named complaint member := by
    rw [List.mem_singleton.mp member]
    exact head
  complains := nofun

theorem atPath (head : path.head? = some part) (reading : Except (Objection Refusal) α) :
    IsAbout part (Checked.atPath path reading) := by
  rcases reading with (refusal | _) | a
  · exact refuse head refusal
  · exact ⟨nofun, nofun⟩
  · exact ⟨nofun, nofun⟩

theorem plainAtPath (head : path.head? = some part) (reading : Except Refusal α) :
    IsAbout part (Checked.plainAtPath path reading) := atPath head _

/-- What an objection is about does not depend on what the check was to result in. -/
theorem of_error {objection : Objection (List Complaint)}
    (about : IsAbout part (.error objection : Checked α)) :
    IsAbout part (.error objection : Checked β) := by
  cases objection with
  | refused complaints =>
      exact ⟨about.named, fun silent => about.complains (by simpa using silent)⟩
  | underflow => exact ⟨nofun, nofun⟩

theorem map (about : IsAbout part check) (view : α → β) :
    IsAbout part (check.map view : Checked β) := by
  cases check with
  | ok a => exact ⟨nofun, nofun⟩
  | error objection => exact about.of_error

theorem both (one : IsAbout part first) (other : IsAbout part second) :
    IsAbout part (Checked.both first second) := by
  rcases first with (firstComplaints | _) | a <;> rcases second with (secondComplaints | _) | b
  case error.refused.error.refused =>
    constructor
    · intro complaint member
      exact (List.mem_append.mp member).elim (one.named complaint) (other.named complaint)
    · intro silent
      apply one.complains
      simp_all [Checked.both]
  case error.refused.ok =>
    exact ⟨one.named, fun silent => one.complains (by simpa [Checked.both] using silent)⟩
  case ok.error.refused =>
    exact ⟨other.named, fun silent => other.complains (by simpa [Checked.both] using silent)⟩
  all_goals exact ⟨nofun, nofun⟩

/-- A check of one part that does not end with an underflow complains about nothing else, and about
this part if and only if it does not succeed. -/
theorem mem_parts (about : IsAbout part check) (checked : check ≠ .error .underflow) {name : String} :
    name ∈ Complaint.parts check.complaints ↔ name = part ∧ ¬ ∃ a, check = .ok a := by
  rw [Complaint.parts, List.mem_filterMap]
  constructor
  · rintro ⟨complaint, member, named⟩
    refine ⟨Option.some.inj (named.symm.trans (about.named complaint member)), ?_⟩
    rintro ⟨a, rfl⟩
    cases member
  · rintro ⟨rfl, fails⟩
    rcases check with ((_ | ⟨complaint, rest⟩) | _) | a
    · exact absurd rfl about.complains
    · exact ⟨complaint, List.mem_cons_self, about.named complaint List.mem_cons_self⟩
    · exact absurd rfl checked
    · exact absurd ⟨a, rfl⟩ fails

end IsAbout

end Checked

end Debounce
