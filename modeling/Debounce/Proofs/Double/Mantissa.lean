import Debounce.Proofs.Double.Value

/-!
# Rounding mantissas

A number is rounded by shifting its mantissa until the exponent is that of the doubles around it.
The bits that are shifted out are remembered as far as rounding depends on them, so the result is
the nearest double.
-/

namespace Debounce.Double

open Float.Model
open UnpackedFloat (ExtendedMantissa Accuracy accuracyOfFraction shiftToTargetExponent
  shiftToExponent)
open UnpackedFloat.ExtendedMantissa (ofMantissaAndAccuracy)
open Rounding

/-- The bits are those of the number: its whole part, whether a half is left over, and whether
anything is left over besides. -/
def Describes (bits : ExtendedMantissa) (q : Rat) : Prop :=
  ∃ rest : Rat, q = bits.mantissa + (if bits.roundBit then 1 / 2 else 0) + rest ∧
    0 ≤ rest ∧ rest < 1 / 2 ∧ (bits.stickyBit = false ↔ rest = 0)

namespace Describes

variable {bits : ExtendedMantissa} {q : Rat}

theorem exact (m : Nat) : Describes (ofMantissaAndAccuracy m .exact) m :=
  ⟨0, by simp [ofMantissaAndAccuracy], le_rfl, by norm_num, by simp [ofMantissaAndAccuracy]⟩

theorem fraction (m : Nat) {numerator denominator : Nat} (proper : numerator < denominator) :
    Describes (ofMantissaAndAccuracy m (accuracyOfFraction numerator denominator))
      (m + numerator / denominator) := by
  have positive : (0 : Rat) < denominator := by exact_mod_cast Nat.zero_lt_of_lt proper
  have lessThanOne : (numerator / denominator : Rat) < 1 := by
    rw [div_lt_one positive]
    exact_mod_cast proper
  rw [accuracyOfFraction]
  split
  · next none =>
      subst none
      simpa using exact m
  · next some =>
      have nonzero : (0 : Rat) < numerator / denominator :=
        div_pos (by exact_mod_cast Nat.pos_of_ne_zero some) positive
      rcases lt_trichotomy (2 * numerator) denominator with below | half | above
      · have casts : (2 * numerator : Rat) < denominator := by exact_mod_cast below
        rw [compare_lt_iff_lt.mpr below]
        refine ⟨numerator / denominator, by simp [ofMantissaAndAccuracy], nonzero.le, ?_,
          by simp [ofMantissaAndAccuracy, nonzero.ne']⟩
        rw [div_lt_div_iff₀ positive (by norm_num)]
        linarith
      · have casts : (2 * numerator : Rat) = denominator := by exact_mod_cast half
        rw [compare_eq_iff_eq.mpr half]
        refine ⟨0, ?_, le_rfl, by norm_num, by simp [ofMantissaAndAccuracy]⟩
        simp only [ofMantissaAndAccuracy, if_true, add_zero]
        rw [← casts] at positive ⊢
        field_simp
      · have casts : (denominator : Rat) < 2 * numerator := by exact_mod_cast above
        rw [compare_gt_iff_gt.mpr above]
        have half : (1 / 2 : Rat) < numerator / denominator := by
          rw [div_lt_div_iff₀ (by norm_num) positive]
          linarith
        refine ⟨numerator / denominator - 1 / 2, ?_, by linarith, by linarith, ?_⟩
        · simp only [ofMantissaAndAccuracy, if_true]
          ring
        · simp only [ofMantissaAndAccuracy, Bool.true_eq_false, false_iff]
          linarith

theorem mantissa_le (describes : Describes bits q) : bits.mantissa ≤ q := by
  rcases describes with ⟨rest, rfl, nonneg, -, -⟩
  split <;> linarith

theorem lt_mantissa (describes : Describes bits q) : q < bits.mantissa + 1 := by
  rcases describes with ⟨rest, rfl, -, small, -⟩
  split <;> linarith

/-- Half of a mantissa, by its last digit. -/
theorem half_mantissa (mantissa : Nat) : (mantissa : Rat) / 2 =
    ((mantissa / 2 : Nat) : Rat) + (if mantissa % 2 != 0 then 1 / 2 else 0) := by
  have digits : (mantissa : Rat) = 2 * ((mantissa / 2 : Nat) : Rat) + (mantissa % 2 : Nat) := by
    exact_mod_cast (Nat.div_add_mod mantissa 2).symm
  rcases Nat.mod_two_eq_zero_or_one mantissa with even | odd
  · rw [even] at digits ⊢
    norm_num at digits ⊢
    linarith
  · rw [odd] at digits ⊢
    norm_num at digits ⊢
    linarith

theorem halved (describes : Describes bits q) : Describes bits.shiftRightOne (q / 2) := by
  rcases bits with ⟨mantissa, roundBit, stickyBit⟩
  rcases describes with ⟨rest, rfl, nonneg, small, sticky⟩
  refine ⟨(if roundBit then 1 / 4 else 0) + rest / 2, ?_, ?_, ?_, ?_⟩
  · rw [add_div, add_div, half_mantissa, ExtendedMantissa.shiftRightOne]
    cases roundBit
    · simp
    · norm_num
      ring
  · cases roundBit <;> simp <;> linarith
  · cases roundBit <;> simp <;> linarith
  · simp only [ExtendedMantissa.shiftRightOne, Bool.or_eq_false_iff, sticky]
    cases roundBit
    · simp
    · have leftOver : (1 / 4 : Rat) + rest / 2 ≠ 0 := by linarith
      simpa using leftOver

theorem shifted (describes : Describes bits q) (n : Nat) :
    Describes (bits >>> n) (q / 2 ^ n) := by
  change Describes (n.repeat ExtendedMantissa.shiftRightOne bits) _
  induction n with
  | zero => simpa [Nat.repeat] using describes
  | succ n shifted =>
      rw [Nat.repeat, pow_succ, ← div_div]
      exact shifted.halved

/-- Rounding a mantissa by its extra bits gives the nearest integer. -/
theorem nearest (describes : Describes bits q) : Nearest q bits.roundedMantissa := by
  rcases bits with ⟨mantissa, roundBit, stickyBit⟩
  rcases describes with ⟨rest, rfl, nonneg, small, sticky⟩
  rw [ExtendedMantissa.roundedMantissa]
  cases roundBit with
  | false =>
      left
      have distance : (mantissa + (if false = true then 1 / 2 else 0) + rest : Rat) -
          ((mantissa : Nat) : Int) = rest := by
        push_cast
        simp
      have kept : (ExtendedMantissa.accuracy ⟨mantissa, false, stickyBit⟩).roundToNearestEven
          mantissa = mantissa := by
        cases stickyBit <;> rfl
      rw [kept, distance, abs_of_nonneg nonneg]
      exact small
  | true =>
      cases stickyBit with
      | false =>
          -- Exactly halfway: the mantissa is raised if it is odd.
          right
          have none : rest = 0 := sticky.mp rfl
          rw [none, ExtendedMantissa.accuracy, Accuracy.roundToNearestEven]
          rcases Nat.mod_two_eq_zero_or_one mantissa with even | odd
          · constructor
            · rw [even]
              norm_num
            · rw [even]
              exact_mod_cast Nat.even_iff.mpr even
          · constructor
            · rw [odd]
              push_cast
              norm_num
            · rw [odd]
              exact_mod_cast (Nat.odd_iff.mpr odd).add_one
      | true =>
          left
          have some : rest ≠ 0 := by
            intro none
            exact Bool.noConfusion (sticky.mpr none)
          have positive : 0 < rest := lt_of_le_of_ne nonneg some.symm
          rw [ExtendedMantissa.accuracy, Accuracy.roundToNearestEven, abs_lt]
          push_cast
          constructor
          · norm_num
            linarith
          · norm_num
            linarith

end Describes

/-- The datum is the number rounded, if overflow is left aside. -/
def Rounds (datum : UnpackedFloat) (x : Rat) : Prop := Fitting datum ∧ Rounded x (value datum)

theorem rounded_signed {x y : Rat} (sign : UnpackedFloat.Sign) (rounded : Rounded x y) :
    Rounded (signed sign x) (signed sign y) := by
  cases sign
  · exact rounded.neg
  · exact rounded

theorem targetExponent_eq (m : Nat) (e : Int) :
    Format.binary64.targetExponent (totalExponent m e) = max (m.log2 + e - 52) (-1074) := by
  simp only [Format.targetExponent, totalExponent, Format.mantissaBits, Format.minExponent]
  omega

variable {m : Nat} {e : Int} {accuracy : Accuracy} {q : Rat}

/-- The exponent that rounding aims at is the one of the grid. -/
theorem grid_target (describes : Describes (ofMantissaAndAccuracy m accuracy) q)
    (fine : e ≤ Format.binary64.targetExponent (totalExponent m e)) :
    Grid (q * 2 ^ e) (Format.binary64.targetExponent (totalExponent m e)) := by
  have mantissa : (ofMantissaAndAccuracy m accuracy).mantissa = m := by
    cases accuracy with
    | exact => rfl
    | inexact side => cases side <;> rfl
  have low := describes.mantissa_le
  have high := describes.lt_mantissa
  rw [mantissa] at low high
  have nonneg : 0 ≤ q * 2 ^ e :=
    mul_nonneg (le_trans (Nat.cast_nonneg m) low) (by positivity)
  rw [targetExponent_eq] at fine ⊢
  constructor
  · exact le_max_right _ _
  · rw [abs_of_nonneg nonneg]
    have digits : (m : Rat) + 1 ≤ 2 ^ (m.log2 + 1) := by exact_mod_cast Nat.lt_log2_self
    calc q * 2 ^ e < 2 ^ (m.log2 + 1) * 2 ^ e := by
          gcongr
          linarith
      _ = 2 ^ (e + (m.log2 + 1 : Nat)) := two_pow_mul_zpow (m.log2 + 1) e
      _ ≤ 2 ^ (max (m.log2 + e - 52) (-1074) + 53) := by
          apply zpow_le_zpow_right₀ (by norm_num)
          push_cast
          omega
  · by_cases subnormal : max (m.log2 + e - 52) (-1074) = -1074
    · exact Or.inl subnormal
    · right
      have normal : max (m.log2 + e - 52 : Int) (-1074) = m.log2 + e - 52 := by omega
      have nonzero : m ≠ 0 := by
        rintro rfl
        simp only [Nat.log2_zero] at fine subnormal
        omega
      have digits : (2 : Rat) ^ m.log2 ≤ m := by exact_mod_cast Nat.log2_self_le nonzero
      rw [abs_of_nonneg nonneg, normal]
      calc (2 : Rat) ^ (m.log2 + e - 52 + 52 : Int) = 2 ^ m.log2 * 2 ^ e := by
            rw [sub_add_cancel, add_comm, two_pow_mul_zpow]
        _ ≤ q * 2 ^ e := by
            gcongr
            exact digits.trans low

/-- What the first shift leaves describes the number on its grid. -/
theorem first_shift (describes : Describes (ofMantissaAndAccuracy m accuracy) q)
    (fine : e ≤ Format.binary64.targetExponent (totalExponent m e)) :
    ∃ bits exponent, shiftToTargetExponent Format.binary64 m e accuracy = (bits, exponent) ∧
      Grid (q * 2 ^ e) exponent ∧ Describes bits (q * 2 ^ e / 2 ^ exponent) := by
  rcases Int.le.dest fine with ⟨shift, target⟩
  refine ⟨_, _, rfl, ?_, ?_⟩
  · rw [← target, add_sub_cancel_left, Int.toNat_natCast, target]
    exact grid_target describes fine
  · rw [← target, add_sub_cancel_left, Int.toNat_natCast]
    have scaled : q * 2 ^ e / 2 ^ (e + (shift : Int)) = q / 2 ^ shift := by
      rw [← two_pow_mul_zpow, mul_div_mul_right _ _ (by positivity : (2 : Rat) ^ e ≠ 0)]
    rw [scaled]
    exact describes.shifted shift

/-- A rounded mantissa may have one digit too many, and then it is a power of two. -/
theorem second_shift (small : m ≤ 2 ^ 53) (least : -1074 ≤ e) (normal : e = -1074 ∨ 2 ^ 52 ≤ m) :
    ∃ n f, shiftToTargetExponent Format.binary64 m e .exact = (⟨n, false, false⟩, f) ∧
      Fitted n f ∧ (n * 2 ^ f : Rat) = m * 2 ^ e := by
  rcases small.lt_or_eq with short | rfl
  · have digits : m.log2 ≤ 52 := by
      by_cases zero : m = 0
      · rw [zero]
        decide
      · exact Nat.lt_succ_iff.mp ((Nat.log2_lt zero).mpr short)
    have still : (Format.binary64.targetExponent (totalExponent m e) - e).toNat = 0 := by
      rw [targetExponent_eq]
      omega
    refine ⟨m, e, ?_, ⟨short, least, normal⟩, rfl⟩
    rw [shiftToTargetExponent, shiftToExponent, still]
    simp only [Nat.cast_zero, add_zero]
    rfl
  · have once : (Format.binary64.targetExponent (totalExponent (2 ^ 53) e) - e).toNat = 1 := by
      rw [targetExponent_eq, Nat.log2_two_pow]
      omega
    refine ⟨2 ^ 52, e + 1, ?_, ⟨by norm_num, by omega, Or.inr le_rfl⟩, ?_⟩
    · rw [shiftToTargetExponent, shiftToExponent, once]
      rfl
    · rw [zpow_add₀ (by norm_num : (2 : Rat) ≠ 0)]
      push_cast
      ring

/-- Rounding a number that a mantissa, an exponent and an accuracy describe. -/
theorem rounds_roundWithAccuracy (sign : UnpackedFloat.Sign)
    (describes : Describes (ofMantissaAndAccuracy m accuracy) q)
    (fine : e ≤ Format.binary64.targetExponent (totalExponent m e)) :
    Rounds (UnpackedFloat.roundWithAccuracy Format.binary64 sign m e accuracy)
      (signed sign (q * 2 ^ e)) := by
  rcases first_shift describes fine with ⟨bits, exponent, first, grid, shifted⟩
  have nonneg : 0 ≤ q * 2 ^ e :=
    mul_nonneg (le_trans (Nat.cast_nonneg _) describes.mantissa_le) (by positivity)
  have nearest := shifted.nearest
  have small : bits.roundedMantissa ≤ 2 ^ 53 := by exact_mod_cast grid.nearest_le nearest
  have normal : exponent = -1074 ∨ 2 ^ 52 ≤ bits.roundedMantissa := by
    exact_mod_cast grid.le_nearest nonneg nearest
  rcases second_shift small grid.least normal with ⟨n, f, second, fitted, same⟩
  have rounded : Rounded (q * 2 ^ e) (n * 2 ^ f) :=
    ⟨exponent, bits.roundedMantissa, grid, nearest, by rw [same]; norm_cast⟩
  rw [UnpackedFloat.roundWithAccuracy, first]
  dsimp only
  rw [second]
  split
  · next zero =>
      have vanished : (n * 2 ^ f : Rat) = 0 := by
        rw [show n = 0 from zero, Nat.cast_zero, zero_mul]
      have signedZero : signed sign 0 = 0 := by
        cases sign
        · exact neg_zero
        · rfl
      have roundedZero := rounded_signed sign (vanished ▸ rounded)
      rw [signedZero] at roundedZero
      exact ⟨trivial, roundedZero⟩
  · exact ⟨fitted, rounded_signed sign rounded⟩

theorem log2_shiftLeft {n : Nat} (nonzero : n ≠ 0) (shift : Nat) :
    (n <<< shift).log2 = n.log2 + shift := by
  induction shift with
  | zero => rfl
  | succ shift shifted =>
      have stillNonzero : n <<< shift ≠ 0 := by
        rw [Nat.shiftLeft_eq]
        positivity
      rw [Nat.shiftLeft_succ, Nat.log2_two_mul stillNonzero, shifted]
      rfl

theorem rounds_round (sign : UnpackedFloat.Sign) (positive : 0 < m) (e : Int) :
    Rounds (UnpackedFloat.round Format.binary64 sign m e) (signed sign (m * 2 ^ e)) := by
  rw [UnpackedFloat.round, UnpackedFloat.decreaseExponent]
  generalize aim : Format.binary64.targetExponent (totalExponent m e) = target
  generalize shifts : (e - target).toNat = shift
  have fine : e - (shift : Int) ≤
      Format.binary64.targetExponent (totalExponent (m <<< shift) (e - shift)) := by
    rw [targetExponent_eq] at aim ⊢
    rw [log2_shiftLeft positive.ne']
    omega
  have same : ((m <<< shift : Nat) * 2 ^ (e - (shift : Int)) : Rat) = m * 2 ^ e := by
    rw [Nat.shiftLeft_eq, zpow_sub₀ (by norm_num : (2 : Rat) ≠ 0), zpow_natCast]
    push_cast
    field_simp
  rw [← same]
  exact rounds_roundWithAccuracy sign (Describes.exact _) fine

theorem rounds_normalize (mantissa : Int) (e : Int) (zeroSign : UnpackedFloat.Sign) :
    Rounds (UnpackedFloat.normalize Format.binary64 mantissa e zeroSign) (mantissa * 2 ^ e) := by
  rw [UnpackedFloat.normalize]
  rcases lt_trichotomy mantissa 0 with negative | rfl | positive
  · rw [compare_lt_iff_lt.mpr negative]
    have magnitude : ((-mantissa).toNat : Rat) = -mantissa := by
      have exact : ((-mantissa).toNat : Int) = -mantissa := Int.toNat_of_nonneg (by omega)
      exact_mod_cast exact
    have rounds := rounds_round .negative (by omega : 0 < (-mantissa).toNat) e
    rw [signed, magnitude, neg_mul, neg_neg] at rounds
    exact rounds
  · rw [compare_eq_iff_eq.mpr rfl, Int.cast_zero, zero_mul]
    exact ⟨trivial, Rounded.zero⟩
  · rw [compare_gt_iff_gt.mpr positive]
    have magnitude : (mantissa.toNat : Rat) = mantissa := by
      have exact : (mantissa.toNat : Int) = mantissa := Int.toNat_of_nonneg (by omega)
      exact_mod_cast exact
    have rounds := rounds_round .positive (by omega : 0 < mantissa.toNat) e
    rw [signed, magnitude] at rounds
    exact rounds

end Debounce.Double
