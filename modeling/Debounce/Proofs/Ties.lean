import Debounce.Proofs.Next
import Debounce.Proofs.Seconds
import Debounce.Proofs.Times
import Debounce.Proofs.Turn

/-!
# Ties between readings of the clock

Readings that are equal need not be the same: double precision has two zeros. Sums that do not start
from the negative zero never lead to it, so the times that timers are set for and the deadlines that
the clock is moved on to are the same if they are equal. Hence a clock that stops on its way to a
deadline shows the same there as one that does not.
-/

namespace Debounce

namespace Instant

variable {τ : Type} [Instant τ]

/-- The reading is a sum: an instant and a span of whole microseconds, or an instant and a span that
leads to a later one. -/
inductive Summed : τ → Prop where
  | micros (a : τ) (n : Int) : Summed (a + ofMicros n)
  | ahead {a span : τ} : a < a + span → Summed (a + span)

/-- Sums that are equal are the same. -/
class LawfulTies (τ : Type) [Instant τ] : Prop extends LawfulDeadlines τ where
  eq_of_le {a b : τ} : Summed a → Summed b → a ≤ b → b ≤ a → a = b

instance : LawfulTies Rat where
  eq_of_le _ _ := Rat.le_antisymm

theorem Summed.later {a b : τ} (left : Summed a) (right : Summed b) : Summed (later a b) := by
  rw [Instant.later]
  split
  · exact right
  · exact left

theorem Summed.sooner {a b : τ} (left : Summed a) (right : Summed b) : Summed (sooner a b) := by
  rw [Instant.sooner]
  split
  · exact right
  · exact left

theorem lt_of_later_lt [LawfulDeadlines τ] {now time deadline : τ} (ordered : time ≤ deadline)
    (before : later now time < deadline) : now < deadline := by
  rw [later] at before
  split at before
  · next moves => exact lt_of_lt_of_le moves ordered
  · exact before

/-- A clock that is moved on to a time on its way to a later one gets there as if it had not
stopped. -/
theorem later_later_of_le [LawfulTies τ] {now time deadline : τ} (summed : Summed time)
    (ahead : now < deadline → Summed deadline) (ordered : time ≤ deadline) :
    later (later now time) deadline = later now deadline := by
  by_cases moves : now < time
  · have after := lt_of_lt_of_le moves ordered
    rw [later, later, if_pos moves, later, if_pos after]
    split
    · rfl
    · next stays =>
        -- The clock has got to the deadline already, so the two times are equal.
        exact LawfulTies.eq_of_le summed (ahead after) ordered
          (Lawful.le_of_not_lt (Lawful.le_left ordered) (Lawful.le_right ordered) stays)
  · rw [Instant.later.eq_1 now time, if_neg moves]

end Instant

/-! ## Times that are sums -/

namespace Debouncer

variable {τ κ ω : Type} [Instant τ] {debouncer : Debouncer τ ω}

theorem exists_begin_eq (debouncer : Debouncer τ ω) :
    ∃ n, debouncer.begin = Instant.ofMicros n := by
  rw [begin]
  cases debouncer.settings.interval with
  | none => exact ⟨_, rfl⟩
  | some interval => exact ⟨_, rfl⟩

theorem exists_idleTime_eq {span : τ} (idle : debouncer.idleTime? = some span) :
    ∃ n, span = Instant.ofMicros n := by
  rcases Option.map_eq_some_iff.mp idle with ⟨duration, _, rfl⟩
  exact ⟨_, rfl⟩

theorem exists_limit_eq {last : τ} (limit : debouncer.limit? = some last) :
    ∃ n, last = Instant.ofMicros n := by
  rw [limit?] at limit
  split at limit
  · cases limit
  · rcases Option.map_eq_some_iff.mp limit with ⟨duration, _, rfl⟩
    exact ⟨_, rfl⟩

theorem summed_add_begin (debouncer : Debouncer τ ω) (instant : τ) :
    Instant.Summed (instant + debouncer.begin) := by
  rcases debouncer.exists_begin_eq with ⟨n, same⟩
  exact same ▸ .micros instant n

theorem summed_add_idleTime {span : τ} (idle : debouncer.idleTime? = some span) (instant : τ) :
    Instant.Summed (instant + span) := by
  rcases exists_idleTime_eq idle with ⟨n, rfl⟩
  exact .micros instant n

theorem summed_add_firstDelay (debouncer : Debouncer τ ω) (instant now : τ) :
    Instant.Summed (instant + debouncer.firstDelay now) := by
  rw [firstDelay]
  split
  · next span call idle _ =>
      split
      · rw [Instant.later]
        split
        · exact summed_add_idleTime idle instant
        · exact debouncer.summed_add_begin instant
      · exact debouncer.summed_add_begin instant
  · exact debouncer.summed_add_begin instant

theorem summed_extension (debouncer : Debouncer τ ω) (stamp now : τ) :
    Instant.Summed (debouncer.extension stamp now) := by
  have wanted : Instant.Summed (debouncer.wanted stamp now) := by
    rw [Debouncer.wanted]
    split
    · exact debouncer.summed_add_begin stamp
    · next span idle =>
        split
        · exact debouncer.summed_add_begin stamp
        · exact (debouncer.summed_add_begin stamp).later (summed_add_idleTime idle now)
  rw [extension]
  split
  · exact wanted
  · next last limit =>
      rcases exists_limit_eq limit with ⟨n, rfl⟩
      exact wanted.sooner (.micros stamp n)

/-- Every request sets and moves timers to sums. -/
theorem Served.summed {agenda : Agenda τ κ} {callback : κ} {request : Request ω}
    {turn : Turn τ (Agenda τ κ) ω} (form : Served debouncer agenda callback request turn)
    (all : agenda.AllPending Instant.Summed) : turn.scheduler.AllPending Instant.Summed := by
  cases form with
  | refusedCall _ | passedOn _ _ | refusedNow _ | ranNow _ | nothingToFlush _ => exact all
  | leading _ _ _ call => cases call <;> exact all
  | reset =>
      rw [Debouncer.reset]
      cases debouncer.timer with
      | none => exact all
      | some id => exact all.cancel id
  | flushed _ _ | tooLateToFlush _ _ => exact all.cancel _
  | trailing _ _ _ call =>
      cases call with
      | opened _ => exact all.add (summed_add_firstDelay _ _ _) callback
      | overdue _ _ _ | overtaken _ _ _ => exact all.cancel _
      | moved _ _ _ => exact all.reschedule (summed_extension _ _ _) _
      | kept _ _ _ => exact all

end Debouncer

/-! ## Sums of doubles -/

namespace Double

open Float.Model
open Rounding

/-- What is no nearer to zero than the least positive double does not round to zero. -/
theorem Yields.value_ne_zero {datum : UnpackedFloat} {x : Rat} (yields : Yields datum x)
    (apart : 2 ^ (-1074 : Int) ≤ |x|) : value datum ≠ 0 := by
  rcases yields with ⟨-, y, rounded, same⟩
  rw [same]
  rcases le_abs.mp apart with above | below
  · exact (overflow_pos rounded above).ne'
  · have mirrored := overflow_pos rounded.neg below
    rw [overflow_neg] at mirrored
    exact (neg_pos.mp mirrored).ne

theorem least_le_abs {k e : Int} (nonzero : k ≠ 0) (least : -1074 ≤ e) :
    (2 : Rat) ^ (-1074 : Int) ≤ |(k : Rat) * 2 ^ e| := by
  have unit : (0 : Rat) < 2 ^ e := zpow_pos (by norm_num) _
  have whole : (1 : Rat) ≤ |(k : Rat)| := by exact_mod_cast Int.one_le_abs nonzero
  rw [abs_mul, abs_of_pos unit]
  calc (2 : Rat) ^ (-1074 : Int) ≤ 2 ^ e := zpow_le_zpow_right₀ (by norm_num) least
    _ ≤ |(k : Rat)| * 2 ^ e := le_mul_of_one_le_left unit.le whole

theorem normalize_ne_negative_zero (mantissa : Int) {e : Int} (least : -1074 ≤ e) :
    (pack (UnpackedFloat.normalize Format.binary64 mantissa e .positive)).unpack ≠
      .zero .negative := by
  intro same
  by_cases zero : mantissa = 0
  · rw [zero] at same
    cases (unpack_pack_zero .positive).symm.trans same
  · have yields := Yields.of_rounds (rounds_normalize mantissa e .positive)
    rw [same] at yields
    exact yields.value_ne_zero (least_le_abs zero least) rfl

/-- A sum is the negative zero only if both sides are. -/
theorem add_eq_negative_zero {a b : UnpackedFloat} (left : Canonical a) (right : Canonical b)
    (sum : (pack (UnpackedFloat.add Format.binary64 a b)).unpack = .zero .negative) :
    a = .zero .negative ∧ b = .zero .negative := by
  cases a with
  | notANumber => cases unpack_pack_notANumber.symm.trans sum
  | infinity sign =>
      cases b with
      | notANumber => cases unpack_pack_notANumber.symm.trans sum
      | infinity other => cases sign <;> cases other <;> cases sum
      | zero | finite => cases (unpack_pack_infinity sign).symm.trans sum
  | zero sign =>
      cases b with
      | notANumber => cases unpack_pack_notANumber.symm.trans sum
      | infinity other => cases (unpack_pack_infinity other).symm.trans sum
      | zero other => cases sign <;> cases other <;> first | exact ⟨rfl, rfl⟩ | cases sum
      | finite other n f positive => cases right.unpack_pack.symm.trans sum
  | finite sign m e positive =>
      cases b with
      | notANumber => cases unpack_pack_notANumber.symm.trans sum
      | infinity other => cases (unpack_pack_infinity other).symm.trans sum
      | zero other => cases left.unpack_pack.symm.trans sum
      | finite other n f otherPositive =>
          exact absurd sum
            (normalize_ne_negative_zero _ (le_min left.1.least right.1.least))

theorem ofMicros_ne_negative_zero (n : Int) :
    (Instant.ofMicros n : Float).toModel.unpack ≠ .zero .negative := by
  intro same
  by_cases zero : n = 0
  · rw [zero] at same
    cases same
  · have yields := yields_ofMicros n
    rw [same] at yields
    refine yields.value_ne_zero ?_ rfl
    have whole : (1 : Rat) ≤ |(n : Rat)| := by exact_mod_cast Int.one_le_abs zero
    rw [abs_div, abs_of_pos (by norm_num : (0 : Rat) < 1000000), le_div_iff₀ (by norm_num)]
    calc (2 : Rat) ^ (-1074 : Int) * 1000000 ≤ 2 ^ (-20 : Int) * 1000000 := by
          gcongr
          · norm_num
          · norm_num
      _ ≤ 1 := by norm_num
      _ ≤ |(n : Rat)| := whole

/-- A sum is not the negative zero. -/
theorem ne_negative_zero_of_summed {x : Float} (summed : Instant.Summed x) :
    x.toModel.unpack ≠ .zero .negative := by
  intro same
  cases summed with
  | micros a n =>
      exact ofMicros_ne_negative_zero n
        (add_eq_negative_zero (canonical a) (canonical _) same).2
  | @ahead a span less =>
      have start := (add_eq_negative_zero (canonical a) (canonical span) same).1
      have ordered := (float_lt_iff.mp less).2.2
      rw [number, number, start, same] at ordered
      exact lt_irrefl _ ordered

theorem eq_of_unpack_eq {x y : Float} (same : x.toModel.unpack = y.toModel.unpack) : x = y := by
  rcases x with ⟨left⟩
  rcases y with ⟨right⟩
  have bits := (UnpackedFloat.unpack_inj_of_valid left.valid right.valid (by decide)).mp same
  rcases left with ⟨left, _⟩
  rcases right with ⟨right, _⟩
  congr 2
  exact UInt64.toBitVec_inj.mp bits

instance : Instant.LawfulTies Float where
  eq_of_le {a b} left right below above := by
    have ordered := float_le_iff.mp below
    have back := float_le_iff.mp above
    apply eq_of_unpack_eq
    have equal : a.toModel.unpack.beq b.toModel.unpack = true := by
      have values : value a.toModel.unpack = value b.toModel.unpack :=
        le_antisymm ordered.2.2 back.2.2
      rw [UnpackedFloat.beq, compare_eq (canonical a) (canonical b) ordered.1 ordered.2.1,
        compare_eq_iff_eq.mpr values]
      rfl
    rw [UnpackedFloat.beq_iff_ne_notANumber_and_eq] at equal
    have leftZero := ne_negative_zero_of_summed left
    have rightZero := ne_negative_zero_of_summed right
    grind

end Double

end Debounce
