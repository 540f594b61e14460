import Debounce.Proofs.Clock
import Debounce.Proofs.Double.Arithmetic

/-!
# Double precision seconds

The laws of clock arithmetic hold of double precision seconds. Comparisons are those of the numbers
that doubles denote, sums and the spans of microseconds are exact values rounded, and rounding is
monotone.
-/

namespace Debounce.Double

open Float.Model
open Rounding

theorem canonical (x : Float) : Canonical x.toModel.unpack := canonical_unpack _

/-- The number that a double denotes. -/
def number (x : Float) : Rat := value x.toModel.unpack

/-- The double is a number or an infinity. -/
def IsNumber (x : Float) : Prop := x.toModel.unpack ≠ .notANumber

theorem float_le_iff {x y : Float} : x ≤ y ↔ IsNumber x ∧ IsNumber y ∧ number x ≤ number y := by
  change decide (x.toModel.unpack.le y.toModel.unpack = true) = true ↔ _
  rw [decide_eq_true_iff, le_iff (canonical x) (canonical y)]
  rfl

theorem float_lt_iff {x y : Float} : x < y ↔ IsNumber x ∧ IsNumber y ∧ number x < number y := by
  change decide (x.toModel.unpack.lt y.toModel.unpack = true) = true ↔ _
  rw [decide_eq_true_iff, lt_iff (canonical x) (canonical y)]
  rfl

theorem le_self_iff {x : Float} : x ≤ x ↔ IsNumber x := by
  rw [float_le_iff]
  constructor
  · exact And.left
  · intro isNumber
    exact ⟨isNumber, isNumber, le_rfl⟩

theorem float_add {x y : Float} (isNumber : IsNumber (x + y)) :
    ∃ z, Rounded (number x + number y) z ∧ number (x + y) = overflow z :=
  (yields_add (canonical x) (canonical y) isNumber).2

theorem float_sub {x y : Float} (isNumber : IsNumber (x - y)) :
    ∃ z, Rounded (number x - number y) z ∧ number (x - y) = overflow z :=
  (yields_sub (canonical x) (canonical y) isNumber).2

/-- A number that is represented exactly is what is denoted. -/
theorem value_of_short {datum : UnpackedFloat} {k e : Int} (short : |k| < 2 ^ 53)
    (least : -1074 ≤ e) (bounded : |(k * 2 ^ e : Rat)| < limit)
    (yields : Yields datum (k * 2 ^ e)) : value datum = k * 2 ^ e := by
  rcases yields with ⟨-, y, rounded, same⟩
  have bounds := abs_lt.mp bounded
  rw [same, rounded.eq_of_short short least, overflow, if_neg (by linarith), if_neg (by linarith)]

theorem lt_limit_of_short {m : Nat} (short : m < 2 ^ 53) : (m : Rat) < limit :=
  calc (m : Rat) < 2 ^ 53 := by exact_mod_cast short
    _ ≤ limit := pow_le_pow_right₀ (by norm_num) (by norm_num)

/-- A positive number that is represented exactly unpacks to parts with a positive sign. -/
theorem finite_of_value {datum : UnpackedFloat} {x : Rat} (isNumber : datum ≠ .notANumber)
    (positive : 0 < x) (small : x < limit) (denotes : value datum = x) :
    ∃ m e mantissaPos, datum = .finite .positive m e mantissaPos ∧ (m * 2 ^ e : Rat) = x := by
  have beyond := limit_lt_infinite
  cases datum with
  | notANumber => exact absurd rfl isNumber
  | infinity sign =>
      exfalso
      cases sign <;> simp only [value, signed] at denotes <;> linarith
  | zero sign =>
      exfalso
      simp only [value] at denotes
      linarith
  | finite sign m e mantissaPos =>
      cases sign with
      | negative =>
          exfalso
          have magnitude : (0 : Rat) < m * 2 ^ e := by positivity
          simp only [value, signed] at denotes
          linarith
      | positive => exact ⟨m, e, mantissaPos, rfl, denotes⟩

/-- A natural number that is short enough is converted without rounding. -/
theorem unpack_toFloat {m : Nat} (positive : 0 < m) (short : m < 2 ^ 53) :
    ∃ n e mantissaPos, m.toUInt64.toFloat.toModel.unpack = .finite .positive n e mantissaPos ∧
      (n * 2 ^ e : Rat) = m := by
  have word : m.toUInt64.toNat = m := Nat.mod_eq_of_lt (by omega)
  have small := lt_limit_of_short short
  have yields := Yields.of_rounds (rounds_normalize m 0 .positive)
  have exact := value_of_short (by simpa using short) (by norm_num)
    (by simpa using small) yields
  rw [zpow_zero, mul_one, Int.cast_natCast] at exact
  have unpacked : m.toUInt64.toFloat.toModel.unpack =
      (pack (UnpackedFloat.normalize Format.binary64 m 0 .positive)).unpack := by
    change (pack (UnpackedFloat.normalize Format.binary64 (m.toUInt64.toNat : Int) 0
      .positive)).unpack = _
    rw [word]
  rw [unpacked]
  exact finite_of_value yields.1 (by exact_mod_cast positive) small exact

theorem unpack_div (x y : Float) : (x / y).toModel.unpack =
    (pack (UnpackedFloat.div Format.binary64 x.toModel.unpack y.toModel.unpack)).unpack := rfl

/-- A million, as the double that microseconds are divided by. -/
theorem unpack_million : Float.exactlyRepresentablePowersOfTen[6].toModel.unpack =
    .finite .positive 8589934592000000 (-33) (by norm_num) := rfl

/-- A number that is too long to be converted exactly is divided by a million before rounding. -/
theorem ofScientific_of_long {m : Nat} (long : ¬ m < 2 ^ 53) :
    UnpackedFloat.ofScientific Format.binary64 m (Int.negOfNat 6) =
      UnpackedFloat.div Format.binary64 (.finite .positive m 0 (by omega))
        (.finite .positive 1000000 0 (by norm_num)) := by
  have near : ¬ Int.negOfNat 6 < -((2 ^ 11 : Int) + m.log2) := by
    simp only [Int.negOfNat]
    omega
  rw [UnpackedFloat.ofScientific, dif_neg (by omega), if_neg (by decide), if_neg near,
    if_neg (by decide)]
  rfl

/-- The span of a natural number of microseconds is the exact one rounded. -/
theorem yields_micros (m : Nat) :
    Yields (Float.ofScientific m true 6).toModel.unpack (m / 1000000) := by
  rw [Float.ofScientific]
  by_cases short : m < 2 ^ 53
  · have million : ((8589934592000000 : Nat) : Rat) * 2 ^ (-33 : Int) = 1000000 := by norm_num
    rw [dif_pos ⟨short, by norm_num⟩, if_pos rfl, unpack_div, unpack_million]
    rcases Nat.eq_zero_or_pos m with rfl | positive
    · rw [Nat.cast_zero, zero_div]
      exact Yields.zero .positive
    · rcases unpack_toFloat positive short with ⟨n, e, mantissaPos, unpacked, same⟩
      rw [unpacked, ← same, ← million]
      exact yields_div e (-33) mantissaPos _
  · have yields := yields_div 0 0 (by omega : 0 < m) (by norm_num : 0 < 1000000)
    rw [← ofScientific_of_long short, zpow_zero, mul_one, mul_one] at yields
    rw [dif_neg (by omega), if_pos rfl]
    exact_mod_cast yields

theorem yields_ofMicros (n : Int) :
    Yields (Instant.ofMicros n : Float).toModel.unpack (n / 1000000) := by
  cases n with
  | ofNat m =>
      rw [Int.ofNat_eq_natCast, Int.cast_natCast]
      exact yields_micros m
  | negSucc m =>
      have negated := yields_neg (canonical _) (yields_micros (m + 1))
      have same : ((Int.negSucc m : Int) : Rat) / 1000000 = -(((m + 1 : Nat) : Rat) / 1000000) := by
        rw [Int.cast_negSucc, neg_div]
      rw [same]
      exact negated

/-- Rounding does not lead from small numbers to infinities. -/
theorem isFinite_of_small {datum : UnpackedFloat} {x : Rat} (small : |x| ≤ 2 ^ 53)
    (yields : Yields datum x) : datum.isFinite = true := by
  rcases yields with ⟨isNumber, y, rounded, same⟩
  have bounds := abs_le.mp small
  have power : Rounded (2 ^ 53) (2 ^ 53) := by
    have rounded := Rounded.of_short (k := 1) (e := 53) (by norm_num) (by norm_num)
    norm_num at rounded ⊢
    exact rounded
  have inside : (2 : Rat) ^ 53 < limit := pow_lt_pow_right₀ (by norm_num) (by norm_num)
  have beyond := limit_lt_infinite
  have upper : y ≤ 2 ^ 53 := rounded.le power bounds.2
  have lower : -2 ^ 53 ≤ y := power.neg.le rounded bounds.1
  rw [overflow, if_neg (by linarith), if_neg (by linarith)] at same
  cases datum with
  | notANumber => exact absurd rfl isNumber
  | infinity sign =>
      exfalso
      cases sign <;> simp only [value, signed] at same <;> linarith
  | zero sign => rfl
  | finite sign m e positive => rfl

/-- The length of a duration is finite. -/
theorem seconds_finite {duration : Duration} (inRange : duration.InRange) :
    (duration.seconds : Float).toModel.unpack.isFinite = true := by
  refine isFinite_of_small ?_ (yields_ofMicros duration.micros)
  have bound : duration.micros.natAbs ≤ 86399999999999999999 := inRange
  have magnitude : |(duration.micros : Rat)| ≤ 86399999999999999999 := by
    rw [← Int.cast_abs, Int.abs_eq_natAbs, Int.cast_natCast]
    exact_mod_cast bound
  rw [abs_div, abs_of_pos (by norm_num : (0 : Rat) < 1000000), div_le_iff₀ (by norm_num)]
  exact magnitude.trans (by norm_num)

/-- Double precision seconds obey the laws. -/
instance : Instant.Lawful Float where
  le_trans {a b c} left right := by
    have both := float_le_iff.mp left
    have others := float_le_iff.mp right
    exact float_le_iff.mpr ⟨both.1, others.2.1, both.2.2.trans others.2.2⟩
  le_of_lt {a b} ordered := by
    have both := float_lt_iff.mp ordered
    exact float_le_iff.mpr ⟨both.1, both.2.1, both.2.2.le⟩
  le_left ordered := le_self_iff.mpr (float_le_iff.mp ordered).1
  le_right ordered := le_self_iff.mpr (float_le_iff.mp ordered).2.1
  le_of_not_lt {a b} left right notLess := by
    have leftNumber := le_self_iff.mp left
    have rightNumber := le_self_iff.mp right
    have ordered : ¬ number a < number b := fun less =>
      notLess (float_lt_iff.mpr ⟨leftNumber, rightNumber, less⟩)
    exact float_le_iff.mpr ⟨rightNumber, leftNumber, not_lt.mp ordered⟩
  add_le_add {a b c d} left right leftSum rightSum := by
    have leftNumber := le_self_iff.mp leftSum
    have rightNumber := le_self_iff.mp rightSum
    rcases float_add leftNumber with ⟨v, leftRounded, leftSame⟩
    rcases float_add rightNumber with ⟨w, rightRounded, rightSame⟩
    have exact : number a + number c ≤ number b + number d :=
      add_le_add (float_le_iff.mp left).2.2 (float_le_iff.mp right).2.2
    refine float_le_iff.mpr ⟨leftNumber, rightNumber, ?_⟩
    rw [leftSame, rightSame]
    exact overflow_le (leftRounded.le rightRounded exact)
  ofMicros_le {m n} ordered := by
    rcases yields_ofMicros m with ⟨leftNumber, v, leftRounded, leftSame⟩
    rcases yields_ofMicros n with ⟨rightNumber, w, rightRounded, rightSame⟩
    have exact : (m / 1000000 : Rat) ≤ n / 1000000 := by
      have casts : (m : Rat) ≤ n := by exact_mod_cast ordered
      linarith
    refine float_le_iff.mpr ⟨leftNumber, rightNumber, ?_⟩
    rw [number, number, leftSame, rightSame]
    exact overflow_le (leftRounded.le rightRounded exact)
  add_seconds {a duration} comparable inRange :=
    le_self_iff.mpr (add_number (canonical _) (canonical _) (le_self_iff.mp comparable)
      (seconds_finite inRange))

/-- Gaps between double precision instants are exact gaps rounded, and so they are ordered. -/
instance : Instant.LawfulGaps Float where
  gap_lt {a b now span} before after near := by
    have ordered := float_le_iff.mp before
    have ahead := float_le_iff.mp after
    have less := float_lt_iff.mp near
    have small : number (now - a) < infinite :=
      less.2.2.trans_le (canonical span).value_le_infinite
    have isNumber : IsNumber (now - b) :=
      sub_number (canonical a) (canonical b) (canonical now) ordered.2.1 ahead.2.1 ordered.2.2
        ahead.2.2 less.1 small
    rcases float_sub less.1 with ⟨v, farRounded, farSame⟩
    rcases float_sub isNumber with ⟨w, nearRounded, nearSame⟩
    have exact : number now - number b ≤ number now - number a :=
      sub_le_sub_left ordered.2.2 (number now)
    refine float_lt_iff.mpr ⟨isNumber, less.2.1, ?_⟩
    calc number (now - b) = overflow w := nearSame
      _ ≤ overflow v := overflow_le (nearRounded.le farRounded exact)
      _ = number (now - a) := farSame.symm
      _ < number span := less.2.2

/-! ## Deadlines -/

/-- A power of two is a whole multiple of a lesser one. -/
theorem zpow_eq_multiple {e f : Int} (lower : f ≤ e) : ∃ k : Int, (2 : Rat) ^ e = k * 2 ^ f := by
  rcases Int.le.dest lower with ⟨digits, rfl⟩
  refine ⟨2 ^ digits, ?_⟩
  rw [← two_pow_mul_zpow]
  push_cast
  rfl

/-- Every double denotes a whole multiple of the least positive one. -/
theorem value_eq_multiple {datum : UnpackedFloat} (canonical : Canonical datum) :
    ∃ k : Int, value datum = k * 2 ^ (-1074 : Int) := by
  have scaled (sign : UnpackedFloat.Sign) (m e : Int) (least : -1074 ≤ e) :
      ∃ k : Int, signed sign (m * 2 ^ e) = k * 2 ^ (-1074 : Int) := by
    rcases zpow_eq_multiple least with ⟨k, same⟩
    rw [same]
    generalize (2 : Rat) ^ (-1074 : Int) = unit
    cases sign
    · exact ⟨-(m * k), by push_cast [signed]; ring⟩
    · exact ⟨m * k, by push_cast [signed]; ring⟩
  cases datum with
  | notANumber => exact ⟨0, by rw [value, Int.cast_zero, zero_mul]⟩
  | zero sign => exact ⟨0, by rw [value, Int.cast_zero, zero_mul]⟩
  | infinity sign =>
      have power : infinite = ((4 : Int) : Rat) * 2 ^ (1024 : Int) := by
        rw [infinite, limit, Int.cast_ofNat]
        exact congrArg (4 * ·) (zpow_natCast 2 1024).symm
      rw [value, power]
      exact scaled sign 4 1024 (by norm_num)
  | finite sign m e positive =>
      rw [value]
      exact_mod_cast scaled sign m e canonical.1.least

/-- Different doubles are at least as far apart as the least positive one is from zero. -/
theorem number_gap {x y : Float} (ordered : number y < number x) :
    2 ^ (-1074 : Int) ≤ number x - number y := by
  rcases value_eq_multiple (canonical x) with ⟨k, left⟩
  rcases value_eq_multiple (canonical y) with ⟨l, right⟩
  have unit : (0 : Rat) < 2 ^ (-1074 : Int) := zpow_pos (by norm_num) _
  rw [number, number, left, right] at ordered ⊢
  have integers : l < k := by exact_mod_cast lt_of_mul_lt_mul_right ordered unit.le
  have apart : (1 : Rat) ≤ k - l := by
    have step : (l : Rat) + 1 ≤ k := by exact_mod_cast integers
    linarith
  rw [← sub_mul]
  exact le_mul_of_one_le_left unit.le apart

theorem overflow_zero : overflow 0 = 0 := by
  have positive := limit_pos
  rw [overflow, if_neg (by linarith), if_neg (by linarith)]

/-- A positive double does not round to zero or below. -/
theorem overflow_pos {x y : Rat} (rounded : Rounded x y) (apart : 2 ^ (-1074 : Int) ≤ x) :
    0 < overflow y := by
  have unit : (0 : Rat) < 2 ^ (-1074 : Int) := zpow_pos (by norm_num) _
  have least : Rounded (2 ^ (-1074 : Int)) (2 ^ (-1074 : Int)) := by
    have short := Rounded.of_short (k := 1) (e := -1074) (by norm_num) le_rfl
    rwa [Int.cast_one, one_mul] at short
  have positive : 0 < y := unit.trans_le (least.le rounded apart)
  have limited := limit_pos
  have beyond := limit_lt_infinite
  rw [overflow]
  split_ifs <;> linarith

/-- A number is its own rounding, also if it is infinite. -/
theorem Canonical.yields {datum : UnpackedFloat} (canonical : Canonical datum)
    (isNumber : datum ≠ .notANumber) : Yields datum (value datum) := by
  cases datum with
  | notANumber => exact absurd rfl isNumber
  | infinity sign =>
      have infinite := Yields.infinity_add sign abs_zero_lt_limit
      rwa [add_zero, canonical.unpack_pack] at infinite
  | zero sign =>
      have zero := Yields.zero sign
      rwa [canonical.unpack_pack] at zero
  | finite sign m e positive =>
      have finite := Yields.of_rounds canonical.rounds
      rwa [canonical.unpack_pack] at finite

theorem Yields.unique {a b : UnpackedFloat} {x : Rat} (left : Yields a x) (right : Yields b x) :
    value a = value b := by
  rcases left with ⟨-, v, leftRounded, leftSame⟩
  rcases right with ⟨-, w, rightRounded, rightSame⟩
  rw [leftSame, rightSame, leftRounded.unique rightRounded]

theorem yields_zero : Yields (Instant.zero : Float).toModel.unpack 0 := by
  have zero := yields_ofMicros 0
  rwa [Int.cast_zero, zero_div] at zero

theorem number_zero : number (Instant.zero : Float) = 0 := by
  rcases yields_zero with ⟨-, y, rounded, same⟩
  rw [number, same, rounded.unique Rounded.zero, overflow_zero]

theorem isNumber_of_finite {x : Float} (finite : x.toModel.unpack.isFinite = true) :
    IsNumber x := by
  intro missing
  rw [missing] at finite
  cases finite

theorem isFinite_neg (datum : UnpackedFloat) : datum.neg.isFinite = datum.isFinite := by
  cases datum <;> rfl

/-- A difference is a number if one side is a number and the other one is finite. -/
theorem isNumber_sub {x y : Float} (isNumber : IsNumber x)
    (finite : y.toModel.unpack.isFinite = true) : IsNumber (x - y) := by
  change (pack (UnpackedFloat.sub Format.binary64 x.toModel.unpack y.toModel.unpack)).unpack ≠ _
  rw [sub_eq_add]
  exact add_number (canonical x) (canonical y).neg isNumber ((isFinite_neg _).trans finite)

/-- Finite readings are those that are finite doubles. -/
theorem finite_iff {x : Float} : Instant.Finite x ↔ x.toModel.unpack.isFinite = true := by
  constructor
  · intro near
    have isNumber : IsNumber (x - x) := (float_le_iff.mp near).1
    have apart : (pack (UnpackedFloat.sub Format.binary64 x.toModel.unpack
        x.toModel.unpack)).unpack ≠ .notANumber := isNumber
    cases unpacked : x.toModel.unpack with
    | notANumber =>
        rw [unpacked] at apart
        exact absurd unpack_pack_notANumber apart
    | infinity sign =>
        rw [unpacked] at apart
        cases sign <;> exact absurd unpack_pack_notANumber apart
    | zero sign => rfl
    | finite sign m e positive => rfl
  · intro finite
    have isNumber := isNumber_sub (isNumber_of_finite finite) finite
    rcases float_sub isNumber with ⟨z, rounded, same⟩
    rw [sub_self] at rounded
    refine float_le_iff.mpr ⟨isNumber, yields_zero.1, ?_⟩
    rw [same, number_zero, rounded.unique Rounded.zero, overflow_zero]

/-- Adding nothing changes no number. -/
theorem number_add_zero {x : Float} (isNumber : IsNumber x) :
    IsNumber (x + Instant.zero) ∧ number (x + Instant.zero) = number x := by
  have inRange : Duration.zero.InRange := by decide
  have finite : (Instant.zero : Float).toModel.unpack.isFinite = true := seconds_finite inRange
  have stays : IsNumber (x + Instant.zero) :=
    add_number (canonical x) (canonical _) isNumber finite
  have sum := yields_add (canonical x) (canonical Instant.zero) stays
  rw [show value (Instant.zero : Float).toModel.unpack = 0 from number_zero, add_zero] at sum
  exact ⟨stays, sum.unique ((canonical x).yields isNumber)⟩

instance : Instant.LawfulDeadlines Float where
  not_lt {a b} ordered less := by
    have both := float_le_iff.mp ordered
    have others := float_lt_iff.mp less
    exact absurd others.2.2 (not_lt.mpr both.2.2)
  comparable finite := le_self_iff.mpr (isNumber_of_finite (finite_iff.mp finite))
  add_zero_le {a} comparable := by
    have isNumber := le_self_iff.mp comparable
    rcases number_add_zero isNumber with ⟨stays, same⟩
    exact float_le_iff.mpr ⟨stays, isNumber, same.le⟩
  le_add_zero {a} comparable := by
    have isNumber := le_self_iff.mp comparable
    rcases number_add_zero isNumber with ⟨stays, same⟩
    exact float_le_iff.mpr ⟨isNumber, stays, same.ge⟩
  sub_le_zero {a b} comparable near := by
    have isNumber := le_self_iff.mp comparable
    have finite := finite_iff.mp near
    have stays := isNumber_sub isNumber finite
    rcases float_sub stays with ⟨z, rounded, same⟩
    rw [float_le_iff, float_le_iff, same, number_zero]
    constructor
    · rintro ⟨-, -, below⟩
      refine ⟨isNumber, isNumber_of_finite finite, ?_⟩
      by_contra above
      exact absurd (overflow_pos rounded (number_gap (not_le.mp above))) (not_lt.mpr below)
    · rintro ⟨-, -, ordered⟩
      refine ⟨stays, yields_zero.1, ?_⟩
      rw [← overflow_zero]
      exact overflow_le (rounded.le Rounded.zero (sub_nonpos.mpr ordered))

end Debounce.Double
