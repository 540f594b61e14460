import Debounce.Proofs.Calls
import Debounce.Proofs.Seconds

/-!
# The beginning of a period

The instant that a period is said to begin at is a reading of the clock, or lies before the reading
at which the debouncer was made or reset. A section of an operation reads the clock and writes the
instant in one go, and while a work runs nothing of a reading is left but the call it will be
recorded as. So the instant never lies ahead of the clock and never moves back unless the debouncer
is reset, also while works run that move the clock and call the debouncer again.
-/

namespace Debounce

namespace Instant

/-- An instant that is moved back by the length of a duration does not move forward. -/
class LawfulRewinds (τ : Type) [Instant τ] : Prop extends Lawful τ where
  sub_seconds_le {a : τ} {duration : Duration} :
    a ≤ a → Duration.zero ≤ duration → duration.InRange → a - duration.seconds ≤ a

instance : LawfulRewinds Rat where
  sub_seconds_le {a duration} _ forward _ := by
    have length : (0 : Rat) ≤ duration.seconds := by
      have micros : (0 : Rat) ≤ duration.micros := by exact_mod_cast forward
      exact div_nonneg micros (by norm_num)
    exact sub_le_self a length

end Instant

namespace Double

theorem number_seconds_nonneg {duration : Duration} (forward : Duration.zero ≤ duration) :
    0 ≤ number (duration.seconds : Float) := by
  have ordered : (Instant.zero : Float) ≤ duration.seconds := Instant.Lawful.ofMicros_le forward
  rw [← number_zero]
  exact (float_le_iff.mp ordered).2.2

/-- Both sides are exact values rounded, also where the instant is infinite. -/
instance : Instant.LawfulRewinds Float where
  sub_seconds_le {a duration} comparable forward inRange := by
    have isNumber := le_self_iff.mp comparable
    have stays : IsNumber (a - duration.seconds) := isNumber_sub isNumber (seconds_finite inRange)
    rcases float_sub stays with ⟨z, moved, same⟩
    rcases (canonical a).yields isNumber with ⟨-, w, rounded, own⟩
    refine float_le_iff.mpr ⟨stays, isNumber, ?_⟩
    calc number (a - duration.seconds) = overflow z := same
      _ ≤ overflow w :=
          overflow_le (moved.le rounded (sub_le_self _ (number_seconds_nonneg forward)))
      _ = number a := own.symm

end Double

variable {τ σ κ ω : Type} [Instant τ]

namespace Debouncer

/-- No period is said to begin after the instant. -/
def StampedBy (debouncer : Debouncer τ ω) (now : τ) : Prop :=
  ∀ stamp, debouncer.leadingTimestamp = some stamp → stamp ≤ now

/-- A period that has begun did not begin later than it is said to begin afterwards. -/
def Onward (before after : Debouncer τ ω) : Prop :=
  ∀ stamp, before.leadingTimestamp = some stamp →
    ∃ newer, after.leadingTimestamp = some newer ∧ stamp ≤ newer

theorem StampedBy.refl [Instant.Lawful τ] {debouncer : Debouncer τ ω} {now : τ}
    (stamped : debouncer.StampedBy now) : debouncer.Onward debouncer :=
  fun stamp begun => ⟨stamp, begun, Instant.Lawful.le_left (stamped stamp begun)⟩

theorem Onward.trans [Instant.Lawful τ] {first middle last : Debouncer τ ω}
    (earlier : first.Onward middle) (later : middle.Onward last) : first.Onward last := by
  intro stamp begun
  obtain ⟨newer, moved, ordered⟩ := earlier stamp begun
  obtain ⟨newest, movedAgain, further⟩ := later newer moved
  exact ⟨newest, movedAgain, Instant.Lawful.le_trans ordered further⟩

section Turns

variable {debouncer : Debouncer τ ω} {scheduler : σ} [Scheduler σ τ κ] {callback : κ}
variable {request : Request ω} {turn : Turn τ σ ω} {now : τ}

theorem rewound_leadingTimestamp (debouncer : Debouncer τ ω) (now : τ) :
    (debouncer.rewound now).leadingTimestamp = debouncer.leadingTimestamp ∨
      debouncer.settings.leading = true ∧ (debouncer.rewound now).leadingTimestamp =
        some (now - debouncer.begin - rewind) := by
  rw [rewound]
  split
  · next edge => exact .inr ⟨by simp_all, rfl⟩
  · exact .inl rfl

/-- A request leaves the beginning of the period alone, lets one begin at the reading of the clock,
or resets a debouncer on the leading edge. -/
theorem Served.leadingTimestamp (served : Served debouncer scheduler callback request turn) :
    turn.debouncer.leadingTimestamp = debouncer.leadingTimestamp ∨
      turn.debouncer.leadingTimestamp = some (Scheduler.now scheduler) ∨
      request = .reset ∧ debouncer.settings.leading = true ∧
        turn.debouncer = (debouncer.reset scheduler).debouncer := by
  cases served with
  | refusedCall | passedOn | refusedNow | ranNow | nothingToFlush | flushed | tooLateToFlush =>
      exact .inl rfl
  | leading _ _ _ form =>
      cases form with
      | ignored _ => exact .inl rfl
      | executed _ _ => exact .inr (.inl rfl)
  | trailing _ _ _ form =>
      cases form with
      | opened _ => exact .inr (.inl rfl)
      | overdue | overtaken | moved | kept => exact .inl rfl
  | reset =>
      cases edge : debouncer.settings.leading with
      | true => exact .inr (.inr ⟨rfl, rfl, rfl⟩)
      | false => exact .inl (by simp [Debouncer.reset, Debouncer.rewound, edge])

variable [Instant.LawfulRewinds τ]

/-- A period that is moved back begins before the reading of the clock. -/
theorem StampedBy.rewound (stamped : debouncer.StampedBy now) (comparable : now ≤ now)
    (inRange : debouncer.settings.InRange) : (debouncer.rewound now).StampedBy now := by
  intro stamp begun
  rcases rewound_leadingTimestamp debouncer now with same | ⟨_, moved⟩
  · exact stamped stamp (same.symm.trans begun)
  · obtain rfl : now - debouncer.begin - rewind = stamp := Option.some.inj (moved.symm.trans begun)
    have earlier : now - debouncer.begin ≤ now := by
      rw [begin]
      cases bounds : debouncer.settings.interval with
      | none =>
          have none : Duration.zero ≤ Duration.zero ∧ Duration.zero.InRange := by decide
          exact Instant.LawfulRewinds.sub_seconds_le comparable none.1 none.2
      | some interval =>
          exact Instant.LawfulRewinds.sub_seconds_le comparable interval.begin_nonneg
            (inRange.begin interval bounds)
    have second : now - debouncer.begin - rewind ≤ now - debouncer.begin := by
      have one : Duration.zero ≤ .ofSeconds 1 ∧ (Duration.ofSeconds 1).InRange := by decide
      exact Instant.LawfulRewinds.sub_seconds_le (Instant.Lawful.le_left earlier) one.1 one.2
    exact Instant.Lawful.le_trans second earlier

end Turns

end Debouncer

namespace DebouncerSession

variable {store : Store τ} {outcome : Outcome τ}

/-- Nothing but a request changes when the period is said to begin. -/
theorem Passage.leadingTimestamp (passage : Passage store outcome) :
    outcome.store.debouncer.leadingTimestamp = store.debouncer.leadingTimestamp := by
  cases passage with
  | answered | recorded | arrived _ => rfl
  | fired _ =>
      rw [take, Turn.effect_store, Store.firing, Debouncer.fire, Debouncer.execute]
      dsimp only
      split <;> rfl

variable [Instant.LawfulRewinds τ]

/-- The clock can be read, and no period is said to begin after it. -/
structure Stamped (store : Store τ) : Prop where
  comparable : store.agenda.now ≤ store.agenda.now
  stamped : store.debouncer.StampedBy store.agenda.now
  inRange : store.debouncer.settings.InRange

namespace Stamped

theorem served (kept : Stamped store) (request : Request (Work (Op τ) (Reply τ))) :
    Stamped (start (.request request) store).store := by
  have form := Debouncer.served_serve store.debouncer store.agenda () request
  have settings := form.settings
  have now := form.now
  rw [start, take, Turn.effect_store]
  generalize store.debouncer.serve store.agenda () request = turn at form settings now
  refine ⟨by rw [now]; exact kept.comparable, ?_, by rw [settings]; exact kept.inRange⟩
  rw [now]
  rcases form.leadingTimestamp with same | begun | ⟨_, _, moved⟩
  · intro stamp earlier
    exact kept.stamped stamp (same.symm.trans earlier)
  · intro stamp earlier
    obtain rfl : store.agenda.now = stamp := Option.some.inj (begun.symm.trans earlier)
    exact kept.comparable
  · have free : Debouncer.StampedBy { store.debouncer with timer := none } store.agenda.now :=
      kept.stamped
    have reset := free.rewound kept.comparable kept.inRange
    rw [moved, Debouncer.reset]
    cases held : store.debouncer.timer with
    | none => exact reset
    | some id => simpa using reset

theorem passed (kept : Stamped store) (passage : Passage store outcome) :
    Stamped outcome.store := by
  have ahead := passage.now_le kept.comparable
  refine ⟨Instant.Lawful.le_right ahead, ?_, by rw [passage.settings]; exact kept.inRange⟩
  intro stamp begun
  have before := kept.stamped stamp (passage.leadingTimestamp.symm.trans begun)
  exact Instant.Lawful.le_trans before ahead

/-- A request does not move the beginning of the period back, except for a reset on the leading
edge. -/
theorem onward (kept : Stamped store) (request : Request (Work (Op τ) (Reply τ)))
    (unreset : store.debouncer.settings.leading = true → request ≠ .reset) :
    store.debouncer.Onward (start (.request request) store).store.debouncer := by
  have form := Debouncer.served_serve store.debouncer store.agenda () request
  rw [start, take, Turn.effect_store]
  intro stamp earlier
  have passed := kept.stamped stamp earlier
  rcases form.leadingTimestamp with same | begun | ⟨resets, edge, _⟩
  · exact ⟨stamp, same.trans earlier, Instant.Lawful.le_left passed⟩
  · exact ⟨_, begun, passed⟩
  · exact absurd resets (unreset edge)

end Stamped

/-- In every state of a run no period is said to begin after the reading of the clock. -/
theorem stamped_of_reaches {settings : Settings} {name : Value} {clock : τ}
    {script : Script (Op τ) (Reply τ)} {state : State τ} (comparable : clock ≤ clock)
    (inRange : settings.InRange)
    (reaches : machine.Reaches (State.initial settings name clock script) state) :
    Stamped state.store := by
  refine keeps_store reaches Stamped (fun request store kept => kept.served request)
    (fun store outcome passage kept => kept.passed passage) ⟨comparable, ?_, ?_⟩
  · exact Debouncer.StampedBy.rewound (by simp [Debouncer.StampedBy]) comparable inRange
  · simpa [State.initial, Store.new, Debouncer.new] using inRange

omit [Instant.LawfulRewinds τ] in
theorem Passage.onward [Instant.Lawful τ] (passage : Passage store outcome)
    (stamped : store.debouncer.StampedBy store.agenda.now) :
    store.debouncer.Onward outcome.store.debouncer := by
  intro stamp begun
  exact ⟨stamp, passage.leadingTimestamp.trans begun, Instant.Lawful.le_left (stamped stamp begun)⟩

/-- Over a part of a run in which a debouncer on the leading edge is not reset, the beginning of the
period does not move back. -/
theorem onward_of_reaches {first last : State τ} (reaches : machine.Reaches first last)
    (kept : Stamped first.store) {since : History τ} (recorded : last.trace = first.trace ++ since)
    (unreset : first.store.debouncer.settings.leading = true →
      ∀ moment ∈ since, ¬ moment.IsReset) :
    first.store.debouncer.Onward last.store.debouncer := by
  have split := keeps reaches
    (fun store history => Stamped store ∧
      store.debouncer.settings = first.store.debouncer.settings ∧
      ∃ since, history = first.trace ++ since ∧
        ((first.store.debouncer.settings.leading = true → ∀ moment ∈ since, ¬ moment.IsReset) →
          first.store.debouncer.Onward store.debouncer))
    ?_ ?_ ?_ ⟨kept, rfl, [], by simp, fun _ => kept.stamped.refl⟩
  · rcases split with ⟨_, _, other, same, onward⟩
    obtain rfl := List.append_cancel_left (same.symm.trans recorded)
    exact onward unreset
  · rintro op depth store _ other ⟨kept, policy, since, rfl, onward⟩
    refine ⟨kept, policy, since ++ [.began op depth], by simp, ?_⟩
    intro unreset
    exact onward fun edge moment member => unreset edge moment (List.mem_append_left _ member)
  · rintro request depth store _ ⟨kept, policy, since, rfl, onward⟩
    have same : (start (.request request) store).store.debouncer.settings =
        store.debouncer.settings := by
      simpa [start, take] using
        (Debouncer.served_serve store.debouncer store.agenda () request).settings
    refine ⟨kept.served request, same.trans policy, since ++ .began (.request request) depth ::
      (start (.request request) store).moments (.request request) depth, by simp, ?_⟩
    intro unreset
    have before := onward fun edge moment member =>
      unreset edge moment (List.mem_append_left _ member)
    apply before.trans
    apply kept.onward request
    rw [policy]
    rintro edge rfl
    exact unreset edge (.began (.request .reset) depth) (by simp) rfl
  · rintro op depth store outcome _ passage ⟨kept, policy, since, rfl, onward⟩
    refine ⟨kept.passed passage, passage.settings.trans policy, since ++ outcome.moments op depth,
      by simp, ?_⟩
    intro unreset
    have before := onward fun edge moment member =>
      unreset edge moment (List.mem_append_left _ member)
    exact before.trans (passage.onward kept.stamped)

/-- The beginning of a period never lies ahead of the clock and never moves back. In every state of
a run, also in those that running works see, it is no later than the reading of the clock; and from
any such state on it stays or moves forward, unless a debouncer on the leading edge is reset. -/
theorem leading_timestamp_moves_forward (settings : Settings) (name : Value) (clock : τ)
    (script : Script (Op τ) (Reply τ)) (state : State τ) (comparable : clock ≤ clock)
    (inRange : settings.InRange)
    (reaches : machine.Reaches (State.initial settings name clock script) state) :
    (∀ stamp, state.store.debouncer.leadingTimestamp = some stamp →
      stamp ≤ state.store.agenda.now) ∧
    ∀ later since, machine.Reaches state later → later.trace = state.trace ++ since →
      (settings.leading = true → ∀ moment ∈ since, ¬ moment.IsReset) →
      ∀ stamp, state.store.debouncer.leadingTimestamp = some stamp →
        ∃ newer, later.store.debouncer.leadingTimestamp = some newer ∧ stamp ≤ newer := by
  have kept := stamped_of_reaches comparable inRange reaches
  refine ⟨kept.stamped, ?_⟩
  intro later since onwards recorded unreset
  rw [← settings_of_reaches reaches] at unreset
  exact onward_of_reaches onwards kept recorded unreset

omit [Instant τ] in
theorem Moment.eq_began_of_isReset {moment : Moment (Op τ) (Reply τ) (Event τ)}
    (resets : moment.IsReset) : ∃ depth, moment = .began (.request .reset) depth := by
  cases moment with
  | began op depth => exact ⟨depth, by rw [Op.eq_of_request? resets]⟩
  | event | ended => cases resets

/-- Whether a moment is the beginning of a reset. -/
def Moment.resets : Moment (Op τ) (Reply τ) (Event τ) → Bool
  | .began (.request .reset) _ => true
  | _ => false

omit [Instant τ] in
theorem Moment.resets_of_isReset {moment : Moment (Op τ) (Reply τ) (Event τ)}
    (reset : moment.IsReset) : Moment.resets moment = true := by
  rcases Moment.eq_began_of_isReset reset with ⟨depth, rfl⟩
  rfl

/-- A work that on its first run lets twenty seconds pass and then calls its debouncer again. -/
def dawdling : Work (Op Float) (Reply Float) where
  id := [0]
  name := "dawdling"
  body _ := .runs [0] fun count =>
    if count = 1 then .before [.advance (.ok 20)] (.perform (.request (.call none)))
    else .done (.ok .nothing)

/-- A call at zero runs a work that calls again at twenty. The outer call ends last and is recorded
as the call at zero, but the period stays the one that began at twenty. -/
theorem leading_timestamp_moves_forward_of_nested :
    let first := State.initial (oneToTwo true) .null (0 : Float)
      (.perform (.request (.call (some dawdling))))
    let state := machine.run 2 first
    let later := machine.run 5 state
    (0 : Float) ≤ 0 ∧ (oneToTwo true).InRange ∧ machine.Reaches first state ∧
      machine.Reaches state later ∧ state.stack.length = 1 ∧ later.stack.length = 0 ∧
      state.store.debouncer.leadingTimestamp = some 0 ∧
      later.store.debouncer.lastCall = some 0 ∧
      ∃ newer, later.store.debouncer.leadingTimestamp = some newer ∧ 0 ≤ newer := by
  intro first state later
  have comparable : (0 : Float) ≤ 0 := by decide +kernel
  have inRange := oneToTwo_inRange true
  have reaches := Machine.reaches_run machine 2 first
  have onwards := Machine.reaches_run machine 5 state
  have begun : state.store.debouncer.leadingTimestamp = some 0 := by decide +kernel
  have recorded : later.trace = state.trace ++ later.trace.drop state.trace.length :=
    (List.prefix_iff_eq_append.mp onwards.record_grows).symm
  have checked : (later.trace.drop state.trace.length).any Moment.resets = false := by
    decide +kernel
  have unreset : ∀ moment ∈ later.trace.drop state.trace.length, ¬ moment.IsReset :=
    fun moment member reset =>
      List.any_eq_false.mp checked moment member (Moment.resets_of_isReset reset)
  have all := leading_timestamp_moves_forward _ _ _ _ state comparable inRange reaches
  exact ⟨comparable, inRange, reaches, onwards, by decide +kernel, by decide +kernel, begun,
    by decide +kernel, all.2 later _ onwards recorded (fun _ => unreset) 0 begun⟩

end DebouncerSession

end Debounce
