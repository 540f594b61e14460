import Debounce.Proofs.Seconds
import Debounce.Registry

/-!
# Equality of keys

Being the same key is symmetric and transitive, so the keys that are the same as themselves fall
into classes, and a registry is a map on these classes. It is not reflexive: not-a-number is not
the same key as itself, and neither is a tuple that holds it.
-/

namespace Debounce.Key

section Doubles

open Float.Model

theorem float_eq_symm {x y : Float} (equal : (x == y) = true) : (y == x) = true := by
  change x.toModel.unpack.beq y.toModel.unpack = true at equal
  change y.toModel.unpack.beq x.toModel.unpack = true
  rw [UnpackedFloat.beq_iff_ne_notANumber_and_eq] at equal ⊢
  grind

theorem float_eq_trans {x y z : Float} (left : (x == y) = true) (right : (y == z) = true) :
    (x == z) = true := by
  change x.toModel.unpack.beq y.toModel.unpack = true at left
  change y.toModel.unpack.beq z.toModel.unpack = true at right
  change x.toModel.unpack.beq z.toModel.unpack = true
  rw [UnpackedFloat.beq_iff_ne_notANumber_and_eq] at left right ⊢
  grind

end Doubles

/-- The two numbers equal the same integer, or they are equal doubles that equal none. -/
theorem sameNumber_iff {a b : Value} :
    sameNumber a b = true ↔
      (∃ n, integer? a = some n ∧ integer? b = some n) ∨
      (∃ x y, a = .float x ∧ b = .float y ∧ integer? a = none ∧ integer? b = none ∧
        (x == y) = true) := by
  unfold sameNumber
  cases left : integer? a with
  | some m =>
      cases right : integer? b with
      | some n => simp only [beq_iff_eq]; grind
      | none => simp
  | none =>
      cases right : integer? b with
      | some n => simp
      | none =>
          dsimp only
          split
          · next x y => simp
          · next other => grind

theorem sameNumber_symm {a b : Value} (same : sameNumber a b = true) :
    sameNumber b a = true := by
  rw [sameNumber_iff] at same ⊢
  rcases same with ⟨n, left, right⟩ | ⟨x, y, rfl, rfl, left, right, equal⟩
  · exact .inl ⟨n, right, left⟩
  · exact .inr ⟨y, x, rfl, rfl, right, left, float_eq_symm equal⟩

theorem sameNumber_trans {a b c : Value} (left : sameNumber a b = true)
    (right : sameNumber b c = true) : sameNumber a c = true := by
  rw [sameNumber_iff] at left right ⊢
  grind [float_eq_trans]

/-- The ways for two values to be the same key. -/
inductive Agree : Value → Value → Prop where
  | null : Agree .null .null
  | text (s : String) : Agree (.text s) (.text s)
  | bytes (content : List UInt8) : Agree (.bytes content) (.bytes content)
  | tuple {xs ys : List Value} : sameAll xs ys = true → Agree (.tuple xs) (.tuple ys)
  | duration (span : Duration) : Agree (.duration span) (.duration span)
  | interval (bounds : Interval) : Agree (.interval bounds) (.interval bounds)
  | number {a b : Value} : sameNumber a b = true → Agree a b

/-- Values of other kinds equal no number. -/
theorem number_of_sameNumber {a b : Value} (number : sameNumber a b = true) :
    (∃ x, a = .bool x) ∨ (∃ x, a = .int x) ∨ ∃ x, a = .float x := by
  rw [sameNumber_iff] at number
  cases a <;> simp_all [integer?]

theorem same_iff {a b : Value} : same a b = true ↔ Agree a b := by
  constructor
  · intro equal
    unfold same at equal
    split at equal
    · exact .null
    · exact beq_iff_eq.mp equal ▸ .text _
    · exact beq_iff_eq.mp equal ▸ .bytes _
    · exact .tuple equal
    · exact beq_iff_eq.mp equal ▸ .duration _
    · exact beq_iff_eq.mp equal ▸ .interval _
    · exact .number equal
  · intro agree
    cases agree with
    | null => rfl
    | text | bytes | duration | interval => simp [same]
    | tuple equal => simpa [same] using equal
    | number equal =>
        rcases number_of_sameNumber equal with ⟨x, rfl⟩ | ⟨x, rfl⟩ | ⟨x, rfl⟩
        · cases b <;> simpa [same] using equal
        · cases b <;> simpa [same] using equal
        · cases b <;> simpa [same] using equal

mutual

/-- Being the same key is symmetric. -/
theorem same_symm {a b : Value} (equal : same a b = true) : same b a = true := by
  rw [same_iff] at equal ⊢
  cases equal with
  | null => exact .null
  | text s => exact .text s
  | bytes content => exact .bytes content
  | tuple items => exact .tuple (sameAll_symm items)
  | duration span => exact .duration span
  | interval bounds => exact .interval bounds
  | number equal => exact .number (sameNumber_symm equal)

theorem sameAll_symm {xs ys : List Value} (equal : sameAll xs ys = true) :
    sameAll ys xs = true := by
  cases xs with
  | nil =>
      cases ys with
      | nil => rfl
      | cons y ys => simp [sameAll] at equal
  | cons x xs =>
      cases ys with
      | nil => simp [sameAll] at equal
      | cons y ys =>
          simp only [sameAll, Bool.and_eq_true] at equal ⊢
          exact ⟨same_symm equal.1, sameAll_symm equal.2⟩

end

mutual

/-- Being the same key is transitive. -/
theorem same_trans {a b c : Value} (left : same a b = true) (right : same b c = true) :
    same a c = true := by
  rw [same_iff] at left
  cases left with
  | null => exact right
  | text s => exact right
  | bytes content => exact right
  | duration span => exact right
  | interval bounds => exact right
  | tuple items =>
      rw [same_iff] at right ⊢
      cases right with
      | tuple others => exact .tuple (sameAll_trans items others)
      | number equal => simp [sameNumber_iff, integer?] at equal
  | number first =>
      have number := number_of_sameNumber (sameNumber_symm first)
      rw [same_iff] at right ⊢
      cases right with
      | number second => exact .number (sameNumber_trans first second)
      | null | text | bytes | duration | interval | tuple => simp at number

theorem sameAll_trans {xs ys zs : List Value} (left : sameAll xs ys = true)
    (right : sameAll ys zs = true) : sameAll xs zs = true := by
  cases xs with
  | nil =>
      cases ys with
      | nil => exact right
      | cons y ys => simp [sameAll] at left
  | cons x xs =>
      cases ys with
      | nil => simp [sameAll] at left
      | cons y ys =>
          cases zs with
          | nil => simp [sameAll] at right
          | cons z zs =>
              simp only [sameAll, Bool.and_eq_true] at left right ⊢
              exact ⟨same_trans left.1 right.1, sameAll_trans left.2 right.2⟩

end

theorem same_comm (a b : Value) : same a b = same b a :=
  Bool.eq_iff_iff.mpr ⟨same_symm, same_symm⟩

/-- Keys that are the same are the same as the same keys. -/
theorem same_left {a b : Value} (equal : same a b = true) (c : Value) : same a c = same b c :=
  Bool.eq_iff_iff.mpr ⟨same_trans (same_symm equal), same_trans equal⟩

theorem same_right {a b : Value} (equal : same a b = true) (c : Value) : same c a = same c b := by
  rw [same_comm c a, same_left equal, same_comm]

mutual

/-- What is the same as something is a key. -/
theorem obstacle?_of_same {a b : Value} (equal : same a b = true) : obstacle? a = none := by
  rw [same_iff] at equal
  cases equal with
  | null | text | bytes | duration | interval => rfl
  | tuple items => exact obstacleIn?_of_sameAll items
  | number equal => rcases number_of_sameNumber equal with ⟨x, rfl⟩ | ⟨x, rfl⟩ | ⟨x, rfl⟩ <;> rfl

theorem obstacleIn?_of_sameAll {xs ys : List Value} (equal : sameAll xs ys = true) :
    obstacleIn? xs = none := by
  cases xs with
  | nil => rfl
  | cons x xs =>
      cases ys with
      | nil => simp [sameAll] at equal
      | cons y ys =>
          simp only [sameAll, Bool.and_eq_true] at equal
          rw [obstacleIn?, obstacle?_of_same equal.1]
          exact obstacleIn?_of_sameAll equal.2

end

theorem check_of_same {a b : Value} (equal : same a b = true) : check a = .ok () := by
  rw [check, obstacle?_of_same equal]

end Debounce.Key
