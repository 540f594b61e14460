import Debounce.Proofs.Rounding

/-!
# Doubles as rational numbers

A double unpacks to an infinity, a zero, a sign with a mantissa and an exponent, or to no number.
Each of these denotes a rational number, and comparisons of doubles are comparisons of the numbers
denoted.
-/

namespace Debounce.Double

open Float.Model
open Rounding

/-- The number with the sign. -/
def signed : UnpackedFloat.Sign → Rat → Rat
  | .negative, x => -x
  | .positive, x => x

/-- The least power of two that is out of range. -/
def limit : Rat := 2 ^ 1024

theorem limit_pos : 0 < limit := by
  rw [limit]
  positivity

/-- What an infinity denotes. It is so great that a sum with a finite double stays out of range. -/
def infinite : Rat := 4 * limit

theorem limit_lt_infinite : limit < infinite := by
  rw [infinite]
  linarith [limit_pos]

/-- The number that is denoted; what is no number counts as zero. -/
def value : UnpackedFloat → Rat
  | .infinity sign => signed sign infinite
  | .notANumber | .zero _ => 0
  | .finite sign mantissa exponent _ => signed sign (mantissa * 2 ^ exponent)

/-- A mantissa and an exponent that a double has if the exponent is not too great. -/
structure Fitted (mantissa : Nat) (exponent : Int) : Prop where
  short : mantissa < 2 ^ 53
  least : -1074 ≤ exponent
  normal : exponent = -1074 ∨ 2 ^ 52 ≤ mantissa

/-- A zero, or a number whose parts are fitted. -/
def Fitting : UnpackedFloat → Prop
  | .infinity _ | .notANumber => False
  | .zero _ => True
  | .finite _ mantissa exponent _ => Fitted mantissa exponent

/-- Doubles unpack to this. -/
def Canonical : UnpackedFloat → Prop
  | .infinity _ | .notANumber | .zero _ => True
  | .finite _ mantissa exponent _ => Fitted mantissa exponent ∧ exponent ≤ 971

namespace Fitted

variable {m n : Nat} {e f : Int}

theorem lt_of_coarser (left : Fitted m e) (right : Fitted n f) (coarser : e < f) :
    (m * 2 ^ e : Rat) < n * 2 ^ f := by
  have normal : 2 ^ 52 ≤ n := by
    apply right.normal.resolve_left
    have := left.least
    omega
  have short : (m : Rat) < 2 ^ 53 := by exact_mod_cast left.short
  have long : (2 : Rat) ^ 52 ≤ n := by exact_mod_cast normal
  calc (m * 2 ^ e : Rat) < 2 ^ 53 * 2 ^ e := by gcongr
    _ = 2 ^ (e + 53) := two_pow_mul_zpow 53 e
    _ ≤ 2 ^ (f + 52) := zpow_le_zpow_right₀ (by norm_num) (by omega)
    _ = 2 ^ 52 * 2 ^ f := (two_pow_mul_zpow 52 f).symm
    _ ≤ n * 2 ^ f := by gcongr

/-- Exponents decide first, and mantissas second. -/
theorem compare_eq (left : Fitted m e) (right : Fitted n f) :
    compare (m * 2 ^ e : Rat) (n * 2 ^ f) = (compare e f).then (compare m n) := by
  rcases lt_trichotomy e f with finer | rfl | coarser
  · rw [compare_lt_iff_lt.mpr finer, compare_lt_iff_lt.mpr (lt_of_coarser left right finer)]
    rfl
  · have positive : (0 : Rat) < 2 ^ e := by positivity
    rw [compare_eq_iff_eq.mpr (rfl : e = e)]
    rcases lt_trichotomy m n with less | rfl | greater
    · rw [compare_lt_iff_lt.mpr less, compare_lt_iff_lt.mpr]
      · rfl
      · exact mul_lt_mul_of_pos_right (by exact_mod_cast less) positive
    · rw [compare_eq_iff_eq.mpr rfl, compare_eq_iff_eq.mpr rfl]
      rfl
    · rw [compare_gt_iff_gt.mpr greater, compare_gt_iff_gt.mpr]
      · rfl
      · exact mul_lt_mul_of_pos_right (by exact_mod_cast greater) positive
  · rw [compare_gt_iff_gt.mpr coarser, compare_gt_iff_gt.mpr (lt_of_coarser right left coarser)]
    rfl

theorem lt_limit (fitted : Fitted m e) (bounded : e ≤ 971) : (m * 2 ^ e : Rat) < limit := by
  have short : (m : Rat) < 2 ^ 53 := by exact_mod_cast fitted.short
  calc (m * 2 ^ e : Rat) < 2 ^ 53 * 2 ^ e := by gcongr
    _ = 2 ^ (e + 53) := two_pow_mul_zpow 53 e
    _ ≤ 2 ^ (1024 : Int) := zpow_le_zpow_right₀ (by norm_num) (by omega)
    _ = limit := zpow_natCast 2 1024

theorem limit_le (fitted : Fitted m e) (beyond : 972 ≤ e) : limit ≤ (m * 2 ^ e : Rat) := by
  have normal : 2 ^ 52 ≤ m := by
    apply fitted.normal.resolve_left
    omega
  have long : (2 : Rat) ^ 52 ≤ m := by exact_mod_cast normal
  calc limit = 2 ^ (1024 : Int) := (zpow_natCast 2 1024).symm
    _ ≤ 2 ^ (e + 52) := zpow_le_zpow_right₀ (by norm_num) (by omega)
    _ = 2 ^ 52 * 2 ^ e := (two_pow_mul_zpow 52 e).symm
    _ ≤ m * 2 ^ e := by gcongr

end Fitted

@[simp] theorem signed_neg (sign : UnpackedFloat.Sign) (x : Rat) :
    signed (-sign) x = -signed sign x := by
  cases sign
  · exact (neg_neg x).symm
  · rfl

theorem abs_signed (sign : UnpackedFloat.Sign) (x : Rat) : |signed sign x| = |x| := by
  cases sign
  · exact abs_neg x
  · rfl

theorem Canonical.abs_lt {sign : UnpackedFloat.Sign} {m : Nat} {e : Int} {positive : 0 < m}
    (canonical : Canonical (.finite sign m e positive)) :
    |value (.finite sign m e positive)| < limit := by
  rw [value, abs_signed, abs_of_pos (by positivity)]
  exact canonical.1.lt_limit canonical.2

private theorem less {x y : Rat} (ordered : x < y) : some Ordering.lt = some (compare x y) :=
  congrArg some (compare_lt_iff_lt.mpr ordered).symm

private theorem greater {x y : Rat} (ordered : y < x) : some Ordering.gt = some (compare x y) :=
  congrArg some (compare_gt_iff_gt.mpr ordered).symm

private theorem equal (x : Rat) : some Ordering.eq = some (compare x x) :=
  congrArg some (compare_eq_iff_eq.mpr rfl).symm

theorem compare_neg (x y : Rat) : compare (-x) (-y) = (compare x y).swap := by
  rcases lt_trichotomy x y with less | rfl | greater
  · rw [compare_lt_iff_lt.mpr less, compare_gt_iff_gt.mpr (neg_lt_neg less)]
    rfl
  · rw [compare_eq_iff_eq.mpr rfl, compare_eq_iff_eq.mpr rfl]
    rfl
  · rw [compare_gt_iff_gt.mpr greater, compare_lt_iff_lt.mpr (neg_lt_neg greater)]
    rfl

/-- Comparisons are those of the numbers denoted. -/
theorem compare_eq {a b : UnpackedFloat} (left : Canonical a) (right : Canonical b)
    (leftNumber : a ≠ .notANumber) (rightNumber : b ≠ .notANumber) :
    UnpackedFloat.compare a b = some (compare (value a) (value b)) := by
  have beyond := limit_lt_infinite
  have infinitePos := limit_pos.trans beyond
  have finitePos (m : Nat) (e : Int) (positive : 0 < m) : (0 : Rat) < m * 2 ^ e := by positivity
  cases a with
  | notANumber => exact absurd rfl leftNumber
  | infinity sign =>
      cases b with
      | notANumber => exact absurd rfl rightNumber
      | infinity other =>
          cases sign <;> cases other
          · exact equal _
          · exact less (by simp only [value, signed]; linarith)
          · exact greater (by simp only [value, signed]; linarith)
          · exact equal _
      | zero other =>
          cases sign
          · exact less (by simp only [value, signed]; linarith)
          · exact greater (by simp only [value, signed]; linarith)
      | finite other n f positive =>
          have small := right.1.lt_limit right.2
          have nonneg := finitePos n f positive
          cases sign
          · cases other <;> exact less (by simp only [value, signed]; linarith)
          · cases other <;> exact greater (by simp only [value, signed]; linarith)
  | zero sign =>
      cases b with
      | notANumber => exact absurd rfl rightNumber
      | infinity other =>
          cases other
          · exact greater (by simp only [value, signed]; linarith)
          · exact less (by simp only [value, signed]; linarith)
      | zero other => exact equal _
      | finite other n f positive =>
          have nonneg := finitePos n f positive
          cases other
          · exact greater (by simp only [value, signed]; linarith)
          · exact less (by simp only [value, signed]; linarith)
  | finite sign m e positive =>
      have small := left.1.lt_limit left.2
      have nonneg := finitePos m e positive
      cases b with
      | notANumber => exact absurd rfl rightNumber
      | infinity other =>
          cases other
          · cases sign <;> exact greater (by simp only [value, signed]; linarith)
          · cases sign <;> exact less (by simp only [value, signed]; linarith)
      | zero other =>
          cases sign
          · exact less (by simp only [value, signed]; linarith)
          · exact greater (by simp only [value, signed]; linarith)
      | finite other n f positive =>
          have otherNonneg := finitePos n f positive
          have magnitudes := left.1.compare_eq right.1
          cases sign <;> cases other
          · simp only [UnpackedFloat.compare, value, signed, compare_neg, magnitudes]
          · exact less (by simp only [value, signed]; linarith)
          · exact greater (by simp only [value, signed]; linarith)
          · simp only [UnpackedFloat.compare, value, signed, magnitudes]

theorem compare_eq_none {a b : UnpackedFloat} (missing : a = .notANumber ∨ b = .notANumber) :
    UnpackedFloat.compare a b = none := by
  rcases missing with rfl | rfl
  · rfl
  · cases a <;> rfl

theorem le_iff {a b : UnpackedFloat} (left : Canonical a) (right : Canonical b) :
    a.le b = true ↔ a ≠ .notANumber ∧ b ≠ .notANumber ∧ value a ≤ value b := by
  rw [UnpackedFloat.le]
  by_cases missing : a = .notANumber ∨ b = .notANumber
  · rw [compare_eq_none missing]
    rcases missing with rfl | rfl <;> simp
  · rcases not_or.mp missing with ⟨leftNumber, rightNumber⟩
    rw [compare_eq left right leftNumber rightNumber]
    rcases lt_trichotomy (value a) (value b) with less | same | greater
    · simp [compare_lt_iff_lt.mpr less, leftNumber, rightNumber, less.le]
    · simp [same, leftNumber, rightNumber]
    · simp [compare_gt_iff_gt.mpr greater, greater]

theorem lt_iff {a b : UnpackedFloat} (left : Canonical a) (right : Canonical b) :
    a.lt b = true ↔ a ≠ .notANumber ∧ b ≠ .notANumber ∧ value a < value b := by
  rw [UnpackedFloat.lt]
  by_cases missing : a = .notANumber ∨ b = .notANumber
  · rw [compare_eq_none missing]
    rcases missing with rfl | rfl <;> simp
  · rcases not_or.mp missing with ⟨leftNumber, rightNumber⟩
    rw [compare_eq left right leftNumber rightNumber]
    rcases lt_trichotomy (value a) (value b) with less | same | greater
    · simp [compare_lt_iff_lt.mpr less, leftNumber, rightNumber, less]
    · simp [same, leftNumber, rightNumber]
    · simp [compare_gt_iff_gt.mpr greater, greater.le]

end Debounce.Double
