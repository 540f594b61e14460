import Debounce.Proofs.Double.Mantissa
import Debounce.Proofs.Double.Packing

/-!
# Arithmetic of doubles

Sums and quotients of doubles are the exact ones rounded, and what is out of range becomes an
infinity.
-/

namespace Debounce.Double

open Float.Model
open UnpackedFloat (decreaseExponent)
open Rounding

/-- What is out of range becomes infinite. -/
def overflow (y : Rat) : Rat :=
  if limit ≤ y then infinite else if y ≤ -limit then -infinite else y

theorem overflow_le {v w : Rat} (ordered : v ≤ w) : overflow v ≤ overflow w := by
  have positive := limit_pos
  have beyond := limit_lt_infinite
  rw [overflow, overflow]
  split_ifs <;> linarith

theorem overflow_neg (y : Rat) : overflow (-y) = -overflow y := by
  have positive := limit_pos
  rw [overflow, overflow]
  split_ifs <;> linarith

theorem overflow_signed (sign : UnpackedFloat.Sign) (y : Rat) :
    overflow (signed sign y) = signed sign (overflow y) := by
  cases sign
  · exact overflow_neg y
  · rfl

theorem rounded_limit : Rounded limit limit := by
  have rounded := Rounded.of_short (k := 1) (e := 1024) (by norm_num) (by norm_num)
  have same : ((1 : Int) : Rat) * 2 ^ (1024 : Int) = limit := by
    rw [Int.cast_one, one_mul, limit]
    exact zpow_natCast 2 1024
  rwa [same] at rounded

theorem overflow_of_le {x y : Rat} (rounded : Rounded x y) (large : limit ≤ x) :
    overflow y = infinite :=
  if_pos (rounded_limit.le rounded large)

theorem overflow_of_le_neg {x y : Rat} (rounded : Rounded x y) (large : x ≤ -limit) :
    overflow y = -infinite := by
  have mirrored := overflow_of_le rounded.neg (le_neg.mp large)
  rw [overflow_neg] at mirrored
  linarith

/-- What a double unpacks to is the number rounded, or an infinity if that is out of range. -/
def Yields (datum : UnpackedFloat) (x : Rat) : Prop :=
  datum ≠ .notANumber ∧ ∃ y, Rounded x y ∧ value datum = overflow y

theorem Yields.of_rounds {datum : UnpackedFloat} {x : Rat} (rounds : Rounds datum x) :
    Yields (pack datum).unpack x := by
  rcases rounds with ⟨fitting, rounded⟩
  cases datum with
  | infinity sign => exact fitting.elim
  | notANumber => exact fitting.elim
  | zero sign =>
      rw [unpack_pack_zero]
      refine ⟨by simp, 0, rounded, ?_⟩
      have positive := limit_pos
      rw [value, overflow, if_neg (by linarith), if_neg (by linarith)]
  | finite sign m e positive =>
      rw [unpack_pack_finite positive fitting, packed]
      split
      · next bounded =>
          have canonical : Canonical (.finite sign m e positive) := ⟨fitting, bounded⟩
          have small := abs_lt.mp canonical.abs_lt
          refine ⟨by simp, _, rounded, ?_⟩
          rw [overflow, if_neg (by linarith), if_neg (by linarith)]
      · next beyond =>
          have large := fitting.limit_le (by omega)
          refine ⟨by simp, _, rounded, ?_⟩
          rw [value, value, overflow_signed, overflow, if_pos large]

/-- A number is its own rounding. -/
theorem Canonical.rounds {sign : UnpackedFloat.Sign} {m : Nat} {e : Int} {positive : 0 < m}
    (canonical : Canonical (.finite sign m e positive)) :
    Rounds (.finite sign m e positive) (value (.finite sign m e positive)) := by
  refine ⟨canonical.1, ?_⟩
  have short : |(m : Int)| < 2 ^ 53 := by simpa using canonical.1.short
  have rounded := Rounded.of_short short canonical.1.least
  rw [Int.cast_natCast] at rounded
  exact rounded_signed sign rounded

theorem value_decreaseExponent (sign : UnpackedFloat.Sign) (m : Nat) {e target : Int}
    (lower : target ≤ e) :
    ((sign.apply (decreaseExponent m e target).1 : Int) : Rat) * 2 ^ target =
      signed sign (m * 2 ^ e) := by
  rcases Int.le.dest lower with ⟨shift, rfl⟩
  have magnitude : ((decreaseExponent m (target + shift) target).1 : Rat) * 2 ^ target =
      m * 2 ^ (target + (shift : Int)) := by
    rw [decreaseExponent, add_sub_cancel_left, Int.toNat_natCast, Nat.shiftLeft_eq,
      ← two_pow_mul_zpow]
    push_cast
    ring
  cases sign
  · rw [UnpackedFloat.Sign.apply, signed, ← magnitude]
    push_cast
    ring
  · exact magnitude

theorem Yields.infinity {sign : UnpackedFloat.Sign} {x : Rat} (large : limit ≤ signed sign x) :
    Yields (pack (.infinity sign)).unpack x := by
  rcases Rounded.exists x with ⟨y, rounded⟩
  rw [unpack_pack_infinity]
  refine ⟨by simp, y, rounded, ?_⟩
  cases sign
  · exact (overflow_of_le_neg rounded (le_neg.mpr large)).symm
  · exact (overflow_of_le rounded large).symm

theorem Yields.zero (sign : UnpackedFloat.Sign) : Yields (pack (.zero sign)).unpack 0 := by
  apply Yields.of_rounds
  exact ⟨trivial, Rounded.zero⟩

theorem abs_zero_lt_limit : |(0 : Rat)| < limit := by
  rw [abs_zero]
  exact limit_pos

/-- A number that is finite does not bring an infinity back into range. -/
theorem Yields.infinity_add (sign : UnpackedFloat.Sign) {x : Rat} (small : |x| < limit) :
    Yields (pack (.infinity sign)).unpack (value (.infinity sign) + x) := by
  have bounds := abs_lt.mp small
  apply Yields.infinity
  cases sign <;> simp only [value, signed, infinite] <;> linarith

/-- The sum of two doubles is their exact sum rounded, unless it is no number. -/
theorem yields_add {a b : UnpackedFloat} (left : Canonical a) (right : Canonical b)
    (number : (pack (UnpackedFloat.add Format.binary64 a b)).unpack ≠ .notANumber) :
    Yields (pack (UnpackedFloat.add Format.binary64 a b)).unpack (value a + value b) := by
  cases a with
  | notANumber => exact absurd unpack_pack_notANumber number
  | infinity sign =>
      cases b with
      | notANumber => exact absurd unpack_pack_notANumber number
      | infinity other =>
          have positive := limit_pos
          cases sign <;> cases other
          · exact Yields.infinity (by simp only [value, signed, infinite]; linarith)
          · exact absurd unpack_pack_notANumber number
          · exact absurd unpack_pack_notANumber number
          · exact Yields.infinity (by simp only [value, signed, infinite]; linarith)
      | zero other => cases sign <;> exact Yields.infinity_add _ abs_zero_lt_limit
      | finite other n f positive => cases sign <;> exact Yields.infinity_add _ right.abs_lt
  | zero sign =>
      rw [show value (.zero sign) = 0 from rfl, zero_add]
      cases b with
      | notANumber => exact absurd unpack_pack_notANumber number
      | infinity other =>
          rw [← add_zero (value _)]
          cases other <;> exact Yields.infinity_add _ abs_zero_lt_limit
      | zero other => cases sign <;> cases other <;> exact Yields.zero _
      | finite other n f positive => exact Yields.of_rounds right.rounds
  | finite sign m e positive =>
      cases b with
      | notANumber => exact absurd unpack_pack_notANumber number
      | infinity other =>
          rw [add_comm]
          cases other <;> exact Yields.infinity_add _ left.abs_lt
      | zero other =>
          rw [show value (.zero other) = 0 from rfl, add_zero]
          exact Yields.of_rounds left.rounds
      | finite other n f otherPositive =>
          apply Yields.of_rounds
          rw [value, value, ← value_decreaseExponent sign m (min_le_left e f),
            ← value_decreaseExponent other n (min_le_right e f), ← add_mul, ← Int.cast_add]
          exact rounds_normalize _ _ _

/-- A sum is a number if one side is a number and the other one is finite. -/
theorem add_number {a b : UnpackedFloat} (left : Canonical a) (right : Canonical b)
    (number : a ≠ .notANumber) (finite : b.isFinite = true) :
    (pack (UnpackedFloat.add Format.binary64 a b)).unpack ≠ .notANumber := by
  cases b with
  | notANumber => exact Bool.noConfusion finite
  | infinity other => exact Bool.noConfusion finite
  | zero other =>
      cases a with
      | notANumber => exact absurd rfl number
      | infinity sign => cases sign <;> exact (Yields.infinity_add _ abs_zero_lt_limit).1
      | zero sign => cases sign <;> cases other <;> exact (Yields.zero _).1
      | finite sign m e positive => exact (Yields.of_rounds left.rounds).1
  | finite other n f otherPositive =>
      cases a with
      | notANumber => exact absurd rfl number
      | infinity sign => cases sign <;> exact (Yields.infinity_add _ right.abs_lt).1
      | zero sign => exact (Yields.of_rounds right.rounds).1
      | finite sign m e positive => exact (Yields.of_rounds (rounds_normalize _ _ _)).1

/-- A quotient with its remainder is exact. -/
theorem value_quotient {m n shift : Nat} {e f target : Int} (positive : 0 < n)
    (gap : (shift : Int) = e - f - target) :
    (((m <<< shift / n : Nat) : Rat) + ((m <<< shift % n : Nat) : Rat) / n) * 2 ^ target =
      m * 2 ^ e / (n * 2 ^ f) := by
  have casts : (0 : Rat) < n := by exact_mod_cast positive
  have digits : (n : Rat) * (m <<< shift / n : Nat) + (m <<< shift % n : Nat) = m * 2 ^ shift := by
    exact_mod_cast (Nat.div_add_mod (m <<< shift) n).trans (Nat.shiftLeft_eq m shift)
  have powers : (2 : Rat) ^ e = 2 ^ shift * 2 ^ target * 2 ^ f := by
    rw [two_pow_mul_zpow, ← zpow_add₀ (by norm_num)]
    congr 1
    omega
  rw [eq_div_iff (by positivity), powers]
  field_simp
  linarith

/-- A quotient is long enough if its exponent is chosen by the digits of its sides. -/
theorem log2_quotient {m n shift : Nat} (positive : 0 < m) (otherPositive : 0 < n)
    (far : n.log2 + 53 ≤ m.log2 + shift) : 52 ≤ (m <<< shift / n).log2 := by
  have enough : 2 ^ 52 ≤ m <<< shift / n := by
    rw [Nat.le_div_iff_mul_le otherPositive, Nat.shiftLeft_eq]
    calc 2 ^ 52 * n ≤ 2 ^ 52 * 2 ^ (n.log2 + 1) := by
          gcongr
          exact Nat.lt_log2_self.le
      _ = 2 ^ (52 + (n.log2 + 1)) := (pow_add 2 52 (n.log2 + 1)).symm
      _ ≤ 2 ^ (m.log2 + shift) := Nat.pow_le_pow_right (by norm_num) (by omega)
      _ = 2 ^ m.log2 * 2 ^ shift := pow_add 2 m.log2 shift
      _ ≤ m * 2 ^ shift := by
          gcongr
          exact Nat.log2_self_le positive.ne'
  exact (Nat.le_log2 (by omega)).mpr enough

/-- The quotient of two positive numbers is the exact one rounded. -/
theorem yields_div {m n : Nat} (e f : Int) (positive : 0 < m) (otherPositive : 0 < n) :
    Yields
      (pack (UnpackedFloat.div Format.binary64 (.finite .positive m e positive)
        (.finite .positive n f otherPositive))).unpack
      (m * 2 ^ e / (n * 2 ^ f)) := by
  rw [UnpackedFloat.div, UnpackedFloat.divCore]
  dsimp only
  generalize aims : min (e - f)
    (Format.binary64.targetExponent (totalExponent m e - totalExponent n f)) = target
  generalize shifts : (e - f - target).toNat = shift
  simp only [Format.targetExponent, totalExponent, Format.mantissaBits, Format.minExponent] at aims
  have gap : (shift : Int) = e - f - target := by omega
  have fine : target ≤ Format.binary64.targetExponent (totalExponent (m <<< shift / n) target) := by
    rw [targetExponent_eq]
    by_cases subnormal : target ≤ -1074
    · omega
    · have far : n.log2 + 53 ≤ m.log2 + shift := by omega
      have digits := log2_quotient positive otherPositive far
      omega
  have rounds := rounds_roundWithAccuracy .positive
    (Describes.fraction (m <<< shift / n) (Nat.mod_lt (m <<< shift) otherPositive)) fine
  rw [value_quotient otherPositive gap] at rounds
  exact Yields.of_rounds rounds

/-- Packing keeps what a double unpacks to. -/
theorem Canonical.unpack_pack {datum : UnpackedFloat} (canonical : Canonical datum) :
    (pack datum).unpack = datum := by
  cases datum with
  | infinity sign => exact unpack_pack_infinity sign
  | notANumber => rfl
  | zero sign => exact unpack_pack_zero sign
  | finite sign m e positive =>
      rw [unpack_pack_finite positive canonical.1, packed, if_pos canonical.2]

theorem Canonical.neg {datum : UnpackedFloat} (canonical : Canonical datum) :
    Canonical datum.neg := by
  cases datum with
  | infinity | notANumber | zero => trivial
  | finite sign m e positive => exact canonical

theorem value_neg (datum : UnpackedFloat) : value datum.neg = -value datum := by
  cases datum with
  | infinity sign => exact signed_neg sign _
  | notANumber | zero => exact neg_zero.symm
  | finite sign m e positive => exact signed_neg sign _

theorem neg_number {datum : UnpackedFloat} (number : datum ≠ .notANumber) :
    datum.neg ≠ .notANumber := by
  cases datum with
  | notANumber => exact absurd rfl number
  | infinity | zero | finite => simp [UnpackedFloat.neg]

theorem yields_neg {datum : UnpackedFloat} {x : Rat} (canonical : Canonical datum)
    (yields : Yields datum x) : Yields (pack datum.neg).unpack (-x) := by
  rcases yields with ⟨number, y, rounded, same⟩
  rw [canonical.neg.unpack_pack]
  exact ⟨neg_number number, -y, rounded.neg, by rw [value_neg, same, overflow_neg]⟩

/-! ## Differences -/

/-- A difference is a sum with the other side negated. -/
theorem sub_eq_add (format : Format) (a b : UnpackedFloat) :
    UnpackedFloat.sub format a b = UnpackedFloat.add format a b.neg := by
  cases a with
  | infinity sign => cases b <;> rfl
  | notANumber => cases b <;> rfl
  | zero sign => cases b <;> rfl
  | finite sign m e positive =>
      cases b with
      | infinity other => rfl
      | notANumber => rfl
      | zero other => rfl
      | finite other n f otherPositive =>
          cases other with
          | positive => rfl
          | negative =>
              rw [UnpackedFloat.sub, UnpackedFloat.neg, UnpackedFloat.add]
              simp only [UnpackedFloat.Sign.apply, sub_neg_eq_add]

/-- The difference of two doubles is their exact difference rounded, unless it is no number. -/
theorem yields_sub {a b : UnpackedFloat} (left : Canonical a) (right : Canonical b)
    (number : (pack (UnpackedFloat.sub Format.binary64 a b)).unpack ≠ .notANumber) :
    Yields (pack (UnpackedFloat.sub Format.binary64 a b)).unpack (value a - value b) := by
  rw [sub_eq_add] at number ⊢
  rw [sub_eq_add_neg, ← value_neg]
  exact yields_add left right.neg number

theorem Canonical.value_le_infinite {datum : UnpackedFloat} (canonical : Canonical datum) :
    value datum ≤ infinite := by
  have positive := limit_pos.trans limit_lt_infinite
  cases datum with
  | infinity sign => cases sign <;> simp only [value, signed] <;> linarith
  | notANumber | zero => exact positive.le
  | finite sign m e mantissaPos =>
      have small := lt_of_abs_lt canonical.abs_lt
      linarith [limit_lt_infinite]

/-- Only the positive infinity denotes so great a number. -/
theorem Canonical.eq_infinity {datum : UnpackedFloat} (canonical : Canonical datum)
    (great : infinite ≤ value datum) : datum = .infinity .positive := by
  have positive := limit_pos.trans limit_lt_infinite
  cases datum with
  | infinity sign =>
      cases sign with
      | negative =>
          exfalso
          simp only [value, signed] at great
          linarith
      | positive => rfl
  | notANumber | zero =>
      exfalso
      simp only [value] at great
      linarith
  | finite sign m e mantissaPos =>
      exfalso
      have small := lt_of_abs_lt canonical.abs_lt
      linarith [limit_lt_infinite]

/-- Only the negative infinity denotes so small a number. -/
theorem Canonical.eq_negative_infinity {datum : UnpackedFloat} (canonical : Canonical datum)
    (small : value datum ≤ -infinite) : datum = .infinity .negative := by
  have mirrored : datum.neg = .infinity .positive := by
    apply canonical.neg.eq_infinity
    rw [value_neg]
    linarith
  cases datum with
  | infinity sign =>
      cases sign with
      | negative => rfl
      | positive => cases mirrored
  | notANumber | zero | finite => cases mirrored

/-- A gap to a later reading of the clock is a number if the gap to an earlier one is a number that
is not infinitely great. -/
theorem sub_number {a b c : UnpackedFloat} (first : Canonical a) (second : Canonical b)
    (third : Canonical c) (isNumber : b ≠ .notANumber) (lastNumber : c ≠ .notANumber)
    (before : value a ≤ value b) (after : value b ≤ value c)
    (number : (pack (UnpackedFloat.sub Format.binary64 c a)).unpack ≠ .notANumber)
    (small : value (pack (UnpackedFloat.sub Format.binary64 c a)).unpack < infinite) :
    (pack (UnpackedFloat.sub Format.binary64 c b)).unpack ≠ .notANumber := by
  cases b with
  | notANumber => exact absurd rfl isNumber
  | zero | finite =>
      rw [sub_eq_add]
      exact add_number third second.neg lastNumber rfl
  | infinity sign =>
      cases sign with
      | negative =>
          obtain rfl := first.eq_negative_infinity before
          exact number
      | positive =>
          obtain rfl := third.eq_infinity after
          exfalso
          have finite : UnpackedFloat.sub Format.binary64 (.infinity .positive) a ≠
              .infinity .positive := by
            intro same
            rw [same, unpack_pack_infinity] at small
            exact lt_irrefl infinite small
          cases a with
          | notANumber => exact number unpack_pack_notANumber
          | zero | finite => exact finite rfl
          | infinity other =>
              cases other with
              | positive => exact number unpack_pack_notANumber
              | negative => exact finite rfl

end Debounce.Double
