import Debounce.Debouncer

/-!
# Laws of clock arithmetic

What the timing rules need of readings of a clock. An instant that is not a number compares with
nothing, not even with itself, so `a ≤ a` says that `a` is a reading that can be compared. Sums may
be rounded, but a greater sum is never rounded to a smaller one.
-/

namespace Debounce

/-- The duration has a length that a duration can have. -/
def Duration.InRange (duration : Duration) : Prop := duration.micros.natAbs ≤ Duration.maxMicros

instance (duration : Duration) : Decidable duration.InRange := Nat.decLe _ _

/-- The durations of a policy are no longer than durations can be. -/
structure Settings.InRange (settings : Settings) : Prop where
  begin : ∀ interval, settings.interval = some interval → interval.begin.InRange
  limit : ∀ interval last, settings.interval = some interval → interval.limit? = some last →
    last.InRange
  idleTime : ∀ idle, settings.idleTime = some idle → idle.InRange

namespace Instant

/-- Comparisons are those of numbers where both sides are numbers, and rounding is monotone. -/
class Lawful (τ : Type) [Instant τ] : Prop where
  le_trans {a b c : τ} : a ≤ b → b ≤ c → a ≤ c
  le_of_lt {a b : τ} : a < b → a ≤ b
  le_left {a b : τ} : a ≤ b → a ≤ a
  le_right {a b : τ} : a ≤ b → b ≤ b
  le_of_not_lt {a b : τ} : a ≤ a → b ≤ b → ¬ a < b → b ≤ a
  /-- Sums that are numbers are ordered as their parts are. -/
  add_le_add {a b c d : τ} : a ≤ b → c ≤ d → a + c ≤ a + c → b + d ≤ b + d → a + c ≤ b + d
  ofMicros_le {m n : Int} : m ≤ n → (ofMicros m : τ) ≤ ofMicros n
  /-- An instant moved by a duration is a number. -/
  add_seconds {a : τ} {duration : Duration} : a ≤ a → duration.InRange →
    a + duration.seconds ≤ a + duration.seconds

/-- Gaps to a reading of the clock are ordered as well: a later reading is no farther from it than
an earlier one. -/
class LawfulGaps (τ : Type) [Instant τ] : Prop extends Lawful τ where
  gap_lt {a b now span : τ} : a ≤ b → b ≤ now → now - a < span → now - b < span

/-- The reading is neither infinite nor no number: it is no farther than nothing from itself. -/
def Finite {τ : Type} [Instant τ] (a : τ) : Prop := a - a ≤ zero

instance {τ : Type} [Instant τ] (a : τ) : Decidable (Finite a) := Instant.decidableLE _ _

/-- A time has come when nothing remains until then, which can be seen from a finite reading of the
clock by looking at the difference. -/
class LawfulDeadlines (τ : Type) [Instant τ] : Prop extends Lawful τ where
  not_lt {a b : τ} : b ≤ a → ¬ a < b
  comparable {a : τ} : Finite a → a ≤ a
  add_zero_le {a : τ} : a ≤ a → a + zero ≤ a
  le_add_zero {a : τ} : a ≤ a → a ≤ a + zero
  sub_le_zero {a b : τ} : a ≤ a → Finite b → (a - b ≤ zero ↔ a ≤ b)

variable {τ : Type} [Instant τ] [Lawful τ] {a b c : τ}

instance : Trans (· ≤ · : τ → τ → Prop) (· ≤ ·) (· ≤ ·) := ⟨Lawful.le_trans⟩

theorem le_later_left (comparable : a ≤ a) (b : τ) : a ≤ later a b := by
  rw [later]
  split
  · next earlier => exact Lawful.le_of_lt earlier
  · exact comparable

theorem le_later_right (left : a ≤ a) (right : b ≤ b) : b ≤ later a b := by
  rw [later]
  split
  · exact right
  · next late => exact Lawful.le_of_not_lt left right late

theorem le_sooner (left : c ≤ a) (right : b ≤ b → c ≤ b) : c ≤ sooner a b := by
  rw [sooner]
  split
  · next earlier => exact right (Lawful.le_left (Lawful.le_of_lt earlier))
  · exact left

omit [Lawful τ] in
theorem later_le (left : a ≤ c) (right : b ≤ c) : later a b ≤ c := by
  rw [later]
  split
  · exact right
  · exact left

omit [Lawful τ] in
theorem le_or_le_of_le_later (early : c ≤ later a b) : c ≤ a ∨ c ≤ b := by
  rw [later] at early
  split at early
  · exact .inr early
  · exact .inl early

theorem sooner_le_left (left : a ≤ a) (b : τ) : sooner a b ≤ a := by
  rw [sooner]
  split
  · next earlier => exact Lawful.le_of_lt earlier
  · exact left

theorem sooner_le_right (left : a ≤ a) (right : b ≤ b) : sooner a b ≤ b := by
  rw [sooner]
  split
  · exact right
  · next late => exact Lawful.le_of_not_lt right left late

/-- The time, or the cap if there is one and it is earlier. -/
def capped {τ : Type} [Instant τ] (cap? : Option τ) (time : τ) : τ :=
  match cap? with
  | none => time
  | some cap => sooner time cap

theorem le_capped {cap? : Option τ} (left : c ≤ a)
    (right : ∀ cap, cap? = some cap → cap ≤ cap → c ≤ cap) : c ≤ capped cap? a := by
  cases cap? with
  | none => exact left
  | some cap => exact le_sooner left (right cap rfl)

theorem capped_le (cap? : Option τ) (comparable : a ≤ a) : capped cap? a ≤ a := by
  cases cap? with
  | none => exact comparable
  | some cap => exact sooner_le_left comparable cap

theorem capped_le_capped {cap? : Option τ} (caps : ∀ cap, cap? = some cap → cap ≤ cap)
    (ordered : a ≤ b) : capped cap? a ≤ capped cap? b := by
  have comparable := Lawful.le_left ordered
  apply le_capped (Lawful.le_trans (capped_le cap? comparable) ordered)
  rintro cap rfl numbers
  exact sooner_le_right comparable numbers

/-- Moving an instant by a duration keeps the order of instants and of durations. -/
theorem add_seconds_le {d e : Duration} (instants : a ≤ b) (durations : d ≤ e)
    (shorter : d.InRange) (longer : e.InRange) : a + d.seconds ≤ b + e.seconds :=
  Lawful.add_le_add instants (Lawful.ofMicros_le durations)
    (Lawful.add_seconds (Lawful.le_left instants) shorter)
    (Lawful.add_seconds (Lawful.le_right instants) longer)

/-- Exact seconds obey the laws. -/
instance : Lawful Rat where
  le_trans := Rat.le_trans
  le_of_lt := Rat.le_of_lt
  le_left _ := Rat.le_refl
  le_right _ := Rat.le_refl
  le_of_not_lt _ _ := Rat.not_lt.mp
  add_le_add left right _ _ := by
    grind
  ofMicros_le {m n} ordered := by
    change (m : Rat) / 1000000 ≤ (n : Rat) / 1000000
    have cast : (m : Rat) ≤ n := by exact_mod_cast ordered
    grind
  add_seconds _ _ := Rat.le_refl

instance : LawfulGaps Rat where
  gap_lt before _ near := by
    grind

instance : LawfulDeadlines Rat where
  not_lt := Rat.not_lt.mpr
  comparable _ := Rat.le_refl
  add_zero_le {a} _ := by
    have empty : (zero : Rat) = 0 := by decide +kernel
    grind
  le_add_zero {a} _ := by
    have empty : (zero : Rat) = 0 := by decide +kernel
    grind
  sub_le_zero {a b} _ _ := by
    have empty : (zero : Rat) = 0 := by decide +kernel
    grind

end Instant

end Debounce
