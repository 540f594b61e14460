import Mathlib

/-!
# Rounding to doubles

The double nearest to a number, as a relation between rational numbers. How far doubles stand apart
depends on the magnitude of the number: numbers below `2 ^ (e + 53)` that are not below
`2 ^ (e + 52)` have doubles at the multiples of `2 ^ e`, and `e` is never less than `-1074`. There
is no greatest double here, so overflow is treated elsewhere.
-/

namespace Debounce.Rounding

/-- Shifting a power of two by whole digits. -/
theorem two_pow_mul_zpow (digits : Nat) (e : Int) :
    (2 : Rat) ^ digits * 2 ^ e = 2 ^ (e + digits) := by
  rw [zpow_add₀ (by norm_num), zpow_natCast, mul_comm]

/-- The integer is nearest to the number; of two that are equally near, it is the even one. -/
def Nearest (q : Rat) (n : Int) : Prop := |q - n| < 1 / 2 ∨ |q - n| = 1 / 2 ∧ Even n

namespace Nearest

variable {p q : Rat} {m n : Int}

theorem le (left : Nearest p m) (right : Nearest q n) (ordered : p ≤ q) : m ≤ n := by
  by_contra above
  have apart : (n : Rat) + 1 ≤ m := by exact_mod_cast not_le.mp above
  rcases left with left | ⟨left, leftEven⟩
  · rcases right with right | ⟨right, -⟩ <;>
      linarith [(abs_lt.mp left).1, (abs_le.mp right.le).2]
  · rcases right with right | ⟨right, rightEven⟩
    · linarith [(abs_le.mp left.le).1, (abs_lt.mp right).2]
    · -- The numbers meet halfway between neighbours, which are not both even.
      have neighbours : (m : Rat) = n + 1 := by
        linarith [(abs_le.mp left.le).1, (abs_le.mp right.le).2]
      have successor : m = n + 1 := by exact_mod_cast neighbours
      subst successor
      exact (Int.even_add_one.mp leftEven) rightEven

theorem ofInt (n : Int) : Nearest n n := by
  left
  norm_num

theorem neg (nearest : Nearest q n) : Nearest (-q) (-n) := by
  have distance : -q - ((-n : Int) : Rat) = -(q - n) := by
    push_cast
    ring
  rw [Nearest, distance, abs_neg, even_neg]
  exact nearest

theorem eq_of_int (nearest : Nearest m n) : n = m :=
  le_antisymm (nearest.le (ofInt m) le_rfl) ((ofInt m).le nearest le_rfl)

theorem «exists» (q : Rat) : ∃ n, Nearest q n := by
  have low := Int.floor_le q
  have high := Int.lt_floor_add_one q
  rcases lt_trichotomy (q - ⌊q⌋) (1 / 2) with below | tie | above
  · exact ⟨⌊q⌋, Or.inl (abs_lt.mpr ⟨by linarith, below⟩)⟩
  · rcases Int.even_or_odd ⌊q⌋ with even | odd
    · exact ⟨⌊q⌋, Or.inr ⟨by rw [tie]; norm_num, even⟩⟩
    · have distance : q - ((⌊q⌋ + 1 : Int) : Rat) = -(1 / 2) := by
        push_cast
        linarith
      exact ⟨⌊q⌋ + 1, Or.inr ⟨by rw [distance]; norm_num, odd.add_one⟩⟩
  · refine ⟨⌊q⌋ + 1, Or.inl (abs_lt.mpr ?_)⟩
    push_cast
    constructor <;> linarith

end Nearest

/-- Doubles near the number are the multiples of `2 ^ exponent`. -/
structure Grid (x : Rat) (exponent : Int) : Prop where
  least : -1074 ≤ exponent
  below : |x| < 2 ^ (exponent + 53)
  normal : exponent = -1074 ∨ 2 ^ (exponent + 52) ≤ |x|

namespace Grid

variable {x y : Rat} {e f : Int}

theorem neg (grid : Grid x e) : Grid (-x) e where
  least := grid.least
  below := (abs_neg x).symm ▸ grid.below
  normal := (abs_neg x).symm ▸ grid.normal

theorem nearest_le {n : Int} (grid : Grid x e) (nearest : Nearest (x / 2 ^ e) n) :
    n ≤ 2 ^ 53 := by
  apply nearest.le (Nearest.ofInt _)
  rw [div_le_iff₀ (by positivity)]
  calc x ≤ |x| := le_abs_self x
    _ ≤ 2 ^ (e + 53) := grid.below.le
    _ = ((2 ^ 53 : Int) : Rat) * 2 ^ e := by
        push_cast
        exact (two_pow_mul_zpow 53 e).symm

theorem le_nearest {n : Int} (grid : Grid x e) (nonneg : 0 ≤ x)
    (nearest : Nearest (x / 2 ^ e) n) : e = -1074 ∨ 2 ^ 52 ≤ n := by
  refine grid.normal.imp_right fun normal => (Nearest.ofInt _).le nearest ?_
  rw [le_div_iff₀ (by positivity)]
  calc ((2 ^ 52 : Int) : Rat) * 2 ^ e = 2 ^ (e + 52) := by
        push_cast
        exact two_pow_mul_zpow 52 e
    _ ≤ |x| := normal
    _ = x := abs_of_nonneg nonneg

theorem le_of_below (grid : Grid x e) (least : -1074 ≤ f) (below : |x| < 2 ^ (f + 53)) :
    e ≤ f := by
  rcases grid.normal with subnormal | normal
  · exact subnormal.trans_le least
  · have powers : (2 : Rat) ^ (e + 52) < 2 ^ (f + 53) := lt_of_le_of_lt normal below
    have exponents := (zpow_lt_zpow_iff_right₀ (by norm_num : (1 : Rat) < 2)).mp powers
    omega

theorem «exists» (x : Rat) : ∃ exponent, Grid x exponent := by
  by_cases small : |x| < 2 ^ (-1021 : Int)
  · exact ⟨-1074, ⟨le_rfl, small, Or.inl rfl⟩⟩
  · have large : 2 ^ (-1021 : Int) ≤ |x| := not_lt.mp small
    have positive : 0 < |x| := lt_of_lt_of_le (by positivity) large
    have lower : (2 : Rat) ^ Int.log 2 |x| ≤ |x| := by
      exact_mod_cast Int.zpow_log_le_self (by norm_num) positive
    have upper : |x| < (2 : Rat) ^ (Int.log 2 |x| + 1) := by
      exact_mod_cast Int.lt_zpow_succ_log_self (by norm_num) |x|
    have least : -1021 < Int.log 2 |x| + 1 :=
      (zpow_lt_zpow_iff_right₀ (by norm_num : (1 : Rat) < 2)).mp (lt_of_le_of_lt large upper)
    refine ⟨Int.log 2 |x| - 52, by omega, ?_, Or.inr ?_⟩
    · rwa [show Int.log 2 |x| - 52 + 53 = Int.log 2 |x| + 1 by ring]
    · rwa [show Int.log 2 |x| - 52 + 52 = Int.log 2 |x| by ring]

end Grid

/-- The double nearest to `x` is `y`, where doubles grow without bound. -/
def Rounded (x y : Rat) : Prop :=
  ∃ exponent n, Grid x exponent ∧ Nearest (x / 2 ^ exponent) n ∧ y = n * 2 ^ exponent

namespace Rounded

variable {x y v w : Rat}

theorem «exists» (x : Rat) : ∃ y, Rounded x y := by
  rcases Grid.exists x with ⟨exponent, grid⟩
  rcases Nearest.exists (x / 2 ^ exponent) with ⟨n, nearest⟩
  exact ⟨_, exponent, n, grid, nearest, rfl⟩

theorem neg : Rounded x v → Rounded (-x) (-v) := by
  rintro ⟨exponent, n, grid, nearest, rfl⟩
  refine ⟨exponent, -n, grid.neg, ?_, by push_cast; ring⟩
  rw [neg_div]
  exact nearest.neg

/-- A number with at most 53 binary digits is its own nearest double. -/
theorem eq_of_short {k e : Int} (short : |k| < 2 ^ 53) (least : -1074 ≤ e)
    (rounded : Rounded (k * 2 ^ e) y) : y = k * 2 ^ e := by
  rcases rounded with ⟨exponent, n, grid, nearest, rfl⟩
  have digits : |(k : Rat)| < 2 ^ 53 := by exact_mod_cast short
  have fine : exponent ≤ e := by
    apply grid.le_of_below least
    calc |(k * 2 ^ e : Rat)| = |(k : Rat)| * 2 ^ e := by
          rw [abs_mul, abs_of_pos (by positivity : (0 : Rat) < 2 ^ e)]
      _ < 2 ^ 53 * 2 ^ e := by gcongr
      _ = 2 ^ (e + 53) := two_pow_mul_zpow 53 e
  rcases Int.le.dest fine with ⟨gap, rfl⟩
  have split : (2 : Rat) ^ (exponent + gap) = ((2 ^ gap : Int) : Rat) * 2 ^ exponent := by
    push_cast
    exact (two_pow_mul_zpow gap exponent).symm
  have whole : (k : Rat) * 2 ^ (exponent + (gap : Int)) / 2 ^ exponent =
      ((k * 2 ^ gap : Int) : Rat) := by
    rw [split, ← mul_assoc, mul_div_cancel_right₀ _ (by positivity : (2 : Rat) ^ exponent ≠ 0)]
    push_cast
    ring
  rw [whole] at nearest
  rw [nearest.eq_of_int, split]
  push_cast
  ring

theorem of_short {k e : Int} (short : |k| < 2 ^ 53) (least : -1074 ≤ e) :
    Rounded (k * 2 ^ e) (k * 2 ^ e) := by
  rcases Rounded.exists (k * 2 ^ e) with ⟨y, rounded⟩
  exact (eq_of_short short least rounded) ▸ rounded

theorem zero : Rounded 0 0 := by
  have rounded := of_short (k := 0) (e := 0) (by norm_num) (by norm_num)
  simpa using rounded

/-- Where doubles are sparser after the rounding, the rounded numbers are apart as well. -/
theorem le_of_coarser {e f m n : Int} (left : Grid x e) (right : Grid y f)
    (leftNearest : Nearest (x / 2 ^ e) m) (rightNearest : Nearest (y / 2 ^ f) n)
    (coarser : e < f) (ordered : x ≤ y) : (m * 2 ^ e : Rat) ≤ n * 2 ^ f := by
  have wide : (2 : Rat) ^ (e + 53) ≤ 2 ^ (f + 52) :=
    zpow_le_zpow_right₀ (by norm_num) (by omega)
  have sparse : f ≠ -1074 := by
    have := left.least
    omega
  have nonneg : 0 ≤ y := by
    by_contra negative
    have large := right.normal.resolve_left sparse
    rw [abs_of_neg (not_le.mp negative)] at large
    linarith [(abs_lt.mp left.below).1]
  have upper : (m : Rat) ≤ 2 ^ 53 := by exact_mod_cast left.nearest_le leftNearest
  have lower : (2 : Rat) ^ 52 ≤ n := by
    exact_mod_cast (right.le_nearest nonneg rightNearest).resolve_left sparse
  calc (m : Rat) * 2 ^ e ≤ 2 ^ 53 * 2 ^ e := by gcongr
    _ = 2 ^ (e + 53) := two_pow_mul_zpow 53 e
    _ ≤ 2 ^ (f + 52) := wide
    _ = 2 ^ 52 * 2 ^ f := (two_pow_mul_zpow 52 f).symm
    _ ≤ n * 2 ^ f := by gcongr

/-- Rounding is monotone. -/
theorem le (left : Rounded x v) (right : Rounded y w) (ordered : x ≤ y) : v ≤ w := by
  rcases left with ⟨e, m, leftGrid, leftNearest, rfl⟩
  rcases right with ⟨f, n, rightGrid, rightNearest, rfl⟩
  rcases lt_trichotomy e f with finer | rfl | coarser
  · exact le_of_coarser leftGrid rightGrid leftNearest rightNearest finer ordered
  · have integers : m ≤ n :=
      leftNearest.le rightNearest (div_le_div_of_nonneg_right ordered (by positivity))
    have casts : (m : Rat) ≤ n := by exact_mod_cast integers
    gcongr
  · -- The mirror image of the first case.
    have mirrored := le_of_coarser rightGrid.neg leftGrid.neg
      (neg_div _ y ▸ rightNearest.neg) (neg_div _ x ▸ leftNearest.neg) coarser (neg_le_neg ordered)
    push_cast at mirrored
    linarith

/-- There is only one nearest double. -/
theorem unique (left : Rounded x v) (right : Rounded x w) : v = w :=
  le_antisymm (left.le right le_rfl) (right.le left le_rfl)

end Rounded

end Debounce.Rounding
