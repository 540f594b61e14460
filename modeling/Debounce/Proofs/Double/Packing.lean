import Debounce.Proofs.Double.Value

/-!
# Packing doubles

Every double unpacks to canonical parts, and packing keeps parts that are canonical. Parts with too
great an exponent come back as an infinity.
-/

namespace Debounce.Double

open Float.Model

open UnpackedFloat (packComponents unpackMantissa unpackExponent unpackSign)

private abbrev Bits := BitVec Format.binary64.numBits

theorem toNat_leading {width : Nat} (fraction : BitVec width) :
    (1#1 ++ fraction).toNat = 2 ^ width + fraction.toNat := by
  rw [BitVec.toNat_append, ← Nat.shiftLeft_add_eq_or_of_lt fraction.isLt]
  simp [Nat.shiftLeft_eq]

@[simp] theorem unpackSign_packComponents (sign : UnpackedFloat.Sign) (exponent : BitVec 11)
    (fraction : BitVec 52) :
    UnpackedFloat.Sign.ofBitVec
      (unpackSign (packComponents Format.binary64 sign exponent fraction)) = sign := by
  have bit : unpackSign (packComponents Format.binary64 sign exponent fraction) =
      sign.toBitVec := by
    ext i bound
    have first : i = 0 := by omega
    subst first
    simp only [unpackSign, packComponents, BitVec.getElem_cast]
    rw [← BitVec.getLsbD_eq_getElem, BitVec.getLsbD_extractLsb]
    change ((sign.toBitVec ++ exponent) ++ fraction).getLsbD 63 = _
    rw [BitVec.getLsbD_append, BitVec.getLsbD_append]
    rfl
  rw [bit]
  cases sign <;> rfl

/-- Every double unpacks to a canonical datum. -/
theorem canonical_unpack (bits : Bits) : Canonical (UnpackedFloat.unpack Format.binary64 bits) := by
  rw [UnpackedFloat.unpack]
  dsimp only
  have fractionLt : (unpackMantissa bits).toNat < 2 ^ 52 := (unpackMantissa bits).isLt
  have exponentLt : (unpackExponent bits).toNat < 2 ^ 11 := (unpackExponent bits).isLt
  split
  · split <;> trivial
  · next finite =>
      have notLast : (unpackExponent bits).toNat ≠ 2047 := by
        intro last
        exact finite (BitVec.eq_of_toNat_eq last)
      split
      · next subnormal =>
          split
          · trivial
          · constructor
            · constructor
              · omega
              · simp [subnormal, Format.exponentBias]
              · left
                simp [subnormal, Format.exponentBias]
            · simp [subnormal, Format.exponentBias]
      · next normal =>
          have notFirst : (unpackExponent bits).toNat ≠ 0 := by
            intro first
            exact normal (BitVec.eq_of_toNat_eq first)
          have leading : (1#1 ++ unpackMantissa bits).toNat =
              2 ^ 52 + (unpackMantissa bits).toNat := toNat_leading _
          constructor
          · constructor
            · omega
            · simp only [Format.exponentBias]
              omega
            · right
              omega
          · simp only [Format.exponentBias]
            omega

/-- What remains of a datum after packing: too great an exponent makes an infinity. -/
def packed : UnpackedFloat → UnpackedFloat
  | .finite sign mantissa exponent positive =>
      if exponent ≤ 971 then .finite sign mantissa exponent positive else .infinity sign
  | datum => datum

theorem unpack_pack_infinity (sign : UnpackedFloat.Sign) :
    (pack (.infinity sign)).unpack = .infinity sign := by
  cases sign <;> rfl

theorem unpack_pack_zero (sign : UnpackedFloat.Sign) :
    (pack (.zero sign)).unpack = .zero sign := by
  cases sign <;> rfl

theorem unpack_pack_notANumber : (pack .notANumber).unpack = .notANumber := rfl

private theorem unpack_components (sign : UnpackedFloat.Sign) (exponent : BitVec 11)
    (fraction : BitVec 52) :
    UnpackedFloat.unpack Format.binary64 (packComponents Format.binary64 sign exponent fraction) =
      if exponent = -1#11 then
        if fraction = 0#52 then .infinity sign else .notANumber
      else if exponent = 0#11 then
        if fractional : fraction = 0#52 then .zero sign
        else .finite sign fraction.toNat (-1074)
          (by simpa [BitVec.toNat_pos, BitVec.pos_iff_ne_zero])
      else .finite sign (1#1 ++ fraction).toNat (exponent.toNat - 1075)
        (by rw [toNat_leading]; positivity) := by
  rw [UnpackedFloat.unpack]
  simp only [UnpackedFloat.unpackMantissa_packComponents,
    UnpackedFloat.unpackExponent_packComponents, unpackSign_packComponents]
  split
  · rfl
  · split
    · next subnormal =>
        subst subnormal
        rfl
    · rfl

/-- Packing keeps a fitted number whose exponent is not too great. -/
theorem unpack_pack_finite {sign : UnpackedFloat.Sign} {m : Nat} {e : Int} (positive : 0 < m)
    (fitted : Fitted m e) :
    (pack (.finite sign m e positive)).unpack = packed (.finite sign m e positive) := by
  change UnpackedFloat.unpack Format.binary64 (UnpackedFloat.pack Format.binary64 _) = _
  have short := fitted.short
  have least := fitted.least
  rw [UnpackedFloat.pack, packed]
  dsimp only
  by_cases bounded : e ≤ 971
  · have biased : (e + Format.binary64.exponentBias + Format.binary64.mantissaBitsWithoutImplicit)
        = e + 1075 := by
      simp only [Format.exponentBias]
      omega
    have inside : ¬ 2 ^ 11 ≤ (e + 1075).toNat + 1 := by omega
    rw [biased, if_pos bounded, if_neg inside]
    by_cases normal : 2 ^ 52 ≤ m
    · have digits : m.log2 = 52 :=
        le_antisymm (Nat.lt_succ_iff.mp ((Nat.log2_lt positive.ne').mpr short))
          ((Nat.le_log2 positive.ne').mpr normal)
      have exponentNat : (BitVec.ofNat 11 (e + 1075).toNat).toNat = (e + 1075).toNat := by
        rw [BitVec.toNat_ofNat]
        omega
      have notLast : BitVec.ofNat 11 (e + 1075).toNat ≠ -1#11 := by
        intro last
        have same : (e + 1075).toNat = 2047 := exponentNat ▸ congrArg BitVec.toNat last
        omega
      have notFirst : BitVec.ofNat 11 (e + 1075).toNat ≠ 0#11 := by
        intro first
        have same : (e + 1075).toNat = 0 := exponentNat ▸ congrArg BitVec.toNat first
        omega
      have mantissaNat : (1#1 ++ BitVec.ofNat 52 m).toNat = m := by
        rw [toNat_leading, BitVec.toNat_ofNat]
        omega
      rw [if_pos (by rw [digits]; rfl), unpack_components, if_neg notLast, if_neg notFirst]
      simp only [mantissaNat, exponentNat, UnpackedFloat.finite.injEq, true_and]
      omega
    · have digits : m.log2 < 52 := (Nat.log2_lt positive.ne').mpr (not_le.mp normal)
      have subnormal : e = -1074 := fitted.normal.resolve_right normal
      have mantissaNat : (BitVec.ofNat 52 m).toNat = m := by
        rw [BitVec.toNat_ofNat]
        omega
      have fractional : BitVec.ofNat 52 m ≠ 0#52 := by
        intro empty
        have same : m = 0 := mantissaNat ▸ congrArg BitVec.toNat empty
        omega
      rw [if_neg (by simp only [Format.mantissaBits]; omega), unpack_components,
        if_neg (by decide), if_pos rfl, dif_neg fractional]
      simp only [mantissaNat, subnormal]
  · have exceeds : 2 ^ 11 ≤ (e + Format.binary64.exponentBias +
        Format.binary64.mantissaBitsWithoutImplicit).toNat + 1 := by
      simp only [Format.exponentBias]
      omega
    rw [if_pos exceeds, if_neg bounded]
    exact unpack_pack_infinity sign

end Debounce.Double
