import Debounce.Logging.Level
import Debounce.Text.Uppercase

/-!
# Level names in upper case

A level may be named in any case and between blanks. It is enough to look at the characters whose
capital is one of A to Z, as no level name can be got in another way: a capital form of several
characters is one that holds something else than A to Z, or one of five pairs of letters that occur
in no level name.
-/

namespace Debounce

namespace Text

variable {c : Char}

theorem isUpper_iff : c.isUpper = true ↔ 65 ≤ c.toNat ∧ c.toNat ≤ 90 := by
  have spelled : c.isUpper = decide (c.val ≥ 'A'.val ∧ c.val ≤ 'Z'.val) := rfl
  simp [spelled, UInt32.le_iff_toNat_le, ← Char.toNat_val]

/-- Only small letters, the dotless i and the long s have a capital of their own. -/
theorem capital_eq_self (small : ¬ (97 ≤ c.toNat ∧ c.toNat ≤ 122)) (dotless : c.toNat ≠ 0x131)
    (long : c.toNat ≠ 0x17f) : capital c = c := by
  have notDotless : c ≠ 'ı' := by
    rintro rfl
    exact dotless rfl
  have notLong : c ≠ 'ſ' := by
    rintro rfl
    exact long rfl
  rw [capital, if_neg notDotless, if_neg notLong]
  apply dif_neg
  simpa [UInt32.le_iff_toNat_le, ← Char.toNat_val] using small

theorem capital_of_small (small : 97 ≤ c.toNat ∧ c.toNat ≤ 122) :
    capital c = Char.ofNat (65 + (c.toNat - 97)) := by
  have letters : ∀ n < 123, 97 ≤ n → capital (Char.ofNat n) = Char.ofNat (65 + (n - 97)) := by
    decide
  have same := letters c.toNat (by omega) small.1
  rwa [Char.ofNat_toNat] at same

/-- A character beyond ASCII is none of the letters A to Z. -/
theorem isUpper_eq_false_of_le (beyond : 128 ≤ c.toNat) : c.isUpper = false := by
  rw [Bool.eq_false_iff, Ne, isUpper_iff]
  omega

theorem isUpper_ofNat_of_le {n : Nat} (beyond : 128 ≤ n) : (Char.ofNat n).isUpper = false := by
  by_cases valid : n.isValidChar
  · apply isUpper_eq_false_of_le
    have given : Char.ofNat n = Char.ofNatAux n valid := dif_pos valid
    rw [given]
    exact beyond
  · have replaced : Char.ofNat n = Char.ofNat 0 := dif_neg valid
    rw [replaced]
    decide

/-- The pairs of letters from A to Z that begin a capital form. -/
def pairs : List (List Char) := [['S', 'S'], ['F', 'F'], ['F', 'I'], ['F', 'L'], ['S', 'T']]

/-- The capital form is no part of a level name: it holds something else than A to Z, or it begins
with one of the pairs. -/
def isForeign (form : List Char) : Bool :=
  form.any (fun d => !d.isUpper) || pairs.any fun pair => pair.isPrefixOf form

theorem isForeign_iff {form : List Char} : isForeign form = true ↔
    (∃ d ∈ form, d.isUpper = false) ∨ ∃ pair ∈ pairs, pair <+: form := by
  simp [isForeign]

theorem foreign_of_sequence : ∀ entry ∈ caseSequences, 128 ≤ entry.1 ∧ entry.1 ≠ 0x131 ∧
    entry.1 ≠ 0x17f ∧ isForeign (entry.2.map Char.ofNat) = true := by
  decide +kernel

theorem cases_of_run : ∀ run ∈ caseRuns,
    run = ⟨97, 122, 1, 65⟩ ∨ run = ⟨0x131, 0x131, 1, 0x49⟩ ∨ run = ⟨0x17f, 0x17f, 1, 0x53⟩ ∨
      128 ≤ run.first ∧ 128 ≤ run.capital ∧ ¬ (run.first ≤ 0x131 ∧ 0x131 ≤ run.last) ∧
        ¬ (run.first ≤ 0x17f ∧ 0x17f ≤ run.last) := by
  decide +kernel

/-- The capital form of a character is its capital alone, or no part of a level name if the
character does not have a capital from A to Z. -/
theorem upper_eq_or_isForeign (c : Char) :
    upper c = [capital c] ∨ (capital c).isUpper = false ∧ isForeign (upper c) = true := by
  rw [upper]
  split
  · next codes found =>
      obtain ⟨earlier, later, table, -⟩ := List.lookup_eq_some_iff.mp found
      have listed : (c.toNat, codes) ∈ caseSequences := by simp [table]
      obtain ⟨beyond, dotless, long, foreign⟩ := foreign_of_sequence _ listed
      rw [capital_eq_self (by omega) dotless long]
      exact .inr ⟨isUpper_eq_false_of_le beyond, foreign⟩
  split
  · next run found =>
      have within := List.find?_some found
      simp only [CaseRun.contains, Bool.and_eq_true, decide_eq_true_eq, beq_iff_eq] at within
      -- Three runs have capitals from A to Z; in all others neither the character nor its capital is
      -- one of these letters.
      obtain rfl | rfl | rfl | ⟨beyond, capitalBeyond, dotless, long⟩ :=
        cases_of_run run (List.mem_of_find?_eq_some found)
      · exact .inl (by rw [capital_of_small within.1])
      · have only : c.toNat = 0x131 := Nat.le_antisymm within.1.2 within.1.1
        rw [← Char.ofNat_toNat c, only]
        exact .inl (by decide)
      · have only : c.toNat = 0x17f := Nat.le_antisymm within.1.2 within.1.1
        rw [← Char.ofNat_toNat c, only]
        exact .inl (by decide)
      · have itself : capital c = c :=
          capital_eq_self (by omega) (fun same => by omega) (fun same => by omega)
        rw [itself]
        exact .inr ⟨isUpper_eq_false_of_le (by omega), isForeign_iff.mpr
          (.inl ⟨_, List.mem_singleton_self _, isUpper_ofNat_of_le (by omega)⟩)⟩
  · next unlisted =>
      rw [List.find?_eq_none] at unlisted
      rw [capital_eq_self]
      · exact .inl rfl
      · intro small
        apply unlisted ⟨97, 122, 1, 65⟩ (by decide)
        simp [CaseRun.contains, small, Nat.mod_one]
      · intro dotless
        apply unlisted ⟨0x131, 0x131, 1, 0x49⟩ (by decide)
        simp [CaseRun.contains, dotless]
      · intro long
        apply unlisted ⟨0x17f, 0x17f, 1, 0x53⟩ (by decide)
        simp [CaseRun.contains, long]

/-- For a word of letters from A to Z without any of the pairs it is enough to look at the capitals
that are single letters. -/
theorem upperCase_eq_iff {cs word : List Char} (letters : ∀ d ∈ word, d.isUpper = true)
    (clear : ∀ pair ∈ pairs, ¬ pair <:+: word) : upperCase cs = word ↔ cs.map capital = word := by
  induction cs generalizing word with
  | nil => rfl
  | cons c cs ih =>
      have split : upperCase (c :: cs) = upper c ++ upperCase cs := List.flatMap_cons
      rw [split, List.map_cons]
      obtain single | ⟨noLetter, foreign⟩ := upper_eq_or_isForeign c
      · cases word with
        | nil => simp [single]
        | cons d word =>
            have rest := ih (fun d member => letters d (List.mem_cons_of_mem _ member))
              (fun pair listed part => clear pair listed (part.trans (List.suffix_cons _ _).isInfix))
            simp [single, rest]
      · constructor
        · rintro rfl
          obtain ⟨d, member, other⟩ | ⟨pair, listed, part⟩ := isForeign_iff.mp foreign
          · exact absurd (letters d (List.mem_append_left _ member)) (by simp [other])
          · exact absurd (part.trans (List.prefix_append _ _)).isInfix (clear pair listed)
        · rintro rfl
          exact absurd (letters _ List.mem_cons_self) (by simp [noLetter])

end Text

namespace Level

variable {level : Level}

/-- No two levels share a name. -/
theorem ofName?_eq_some {name : String} : ofName? name = some level ↔ name = level.name := by
  constructor
  · intro found
    have named := List.find?_some found
    exact (of_decide_eq_true named).symm
  · rintro rfl
    cases level <;> decide

theorem letters_name (level : Level) : ∀ d ∈ level.name.toList, d.isUpper = true := by
  rw [← List.all_eq_true]
  cases level <;> decide

theorem pairs_name (level : Level) : ∀ pair ∈ Text.pairs, ¬ pair <:+: level.name.toList := by
  cases level <;> decide +kernel

/-- A text names a level if and only if it is the name of the level when it is stripped of blanks
and put in upper case. -/
theorem ofLooseName?_eq_some {text : String} : ofLooseName? text = some level ↔
    Text.upperCase (Text.trim Text.isBlank text.toList) = level.name.toList := by
  rw [ofLooseName?, ofName?_eq_some, Text.upperCase_eq_iff level.letters_name level.pairs_name]
  constructor
  · intro same
    rw [← same, String.toList_ofList]
  · intro same
    rw [same, String.ofList_toList]

end Level

end Debounce
