import Debounce.Proofs.Passive
import Debounce.Proofs.Pending
import Debounce.Proofs.Resemblance
import Debounce.Proofs.Spacing

/-!
# Intervals without an end

The end of an interval caps what the idle time does: it ends a period on the leading edge that calls
keep open, and on the trailing edge it stops calls from moving the timer any further. Without an
idle time there is nothing to cap, since the greatest spacing is no less than the least one. A
debouncer whose interval has an end then does in every run what it would do without that end.
-/

namespace Debounce

variable {τ : Type} [Instant τ]

/-- The end of an interval is not before its beginning, from whatever instant on: where one of them
is no number the other one comes no sooner. -/
theorem Settings.InRange.ordered [Instant.LawfulSums τ] {settings : Settings}
    (inRange : settings.InRange) : settings.Ordered τ := by
  intro interval last bounds limit stamp sooner
  have comparable : stamp ≤ stamp :=
    Instant.LawfulSums.comparable_of_add (Instant.Lawful.le_left (Instant.Lawful.le_of_lt sooner))
  have ordered : stamp + interval.begin.seconds ≤ stamp + last.seconds :=
    Instant.add_seconds_le comparable (interval.begin_le_limit last limit)
      (inRange.begin interval bounds) (inRange.limit interval last bounds limit)
  exact Instant.LawfulDeadlines.not_lt ordered sooner

namespace Debouncer

variable {ω : Type}

/-- A new debouncer resembles one whose interval has no end, if there is no idle time. -/
theorem resembles_new_endless {settings : Settings} (unset : settings.idleTime = none)
    (ordered : settings.Ordered τ) (name : Value) (now : τ) :
    Resembles { limit := true } (new settings name now : Debouncer τ ω)
      (new settings.endless name now) := by
  apply Resembles.rewound
  exact ⟨rfl, .inr ⟨rfl, rfl, unset, ordered⟩, .inl rfl, .inl rfl⟩

/-- If nothing but the end may differ, the debouncers differ in their policies alone. -/
theorem Resembles.eq_with_settings {debouncer other : Debouncer τ ω}
    (resembles : debouncer.Resembles { limit := true } other) :
    other = { debouncer with settings := other.settings } := by
  have fields := resembles.fields
  rwa [resembles.stamp_eq rfl, resembles.call_eq rfl] at fields

end Debouncer

namespace DebouncerSession

/-- Whether a moment is the beginning of an operation that shows the policy. -/
def Moment.showsPolicy : Moment (Op τ) (Reply τ) (Event τ) → Bool
  | .began op _ => op.showsPolicy
  | _ => false

/-- Without an idle time the end of the interval has no effect. A session whose interval has an end
and one whose interval has none, from the same clock reading on, get after every step to states that
differ in the policies of their debouncers alone: the same operations have begun and have ended with
the same replies, the same works have begun to run at the same clock readings, the same operations
are suspended, the clocks show the same, the timers are the same, and so are the other fields of the
debouncers. All that is asked is that no operation shows the policy itself. -/
theorem run_endless [Instant.LawfulSums τ] (settings : Settings) (name : Value) (clock : τ)
    (script : Script (Op τ) (Reply τ)) (fuel : Nat) (inRange : settings.InRange)
    (unset : settings.idleTime = none)
    (hidden : ∀ moment ∈ (machine.run fuel (State.initial settings name clock script)).trace,
      Moment.showsPolicy moment = false) :
    let bounded := machine.run fuel (State.initial settings name clock script)
    machine.run fuel (State.initial settings.endless name clock script) =
      { bounded with
        store.debouncer := { bounded.store.debouncer with settings := settings.endless } } := by
  intro bounded
  have new := Debouncer.resembles_new_endless (ω := Work (Op τ) (Reply τ)) unset inRange.ordered
    name clock
  have locked : Machine.Lockstep (fun told => told) (Store.Resembles { limit := true })
      (State.initial settings name clock script)
      (State.initial settings.endless name clock script) :=
    ⟨⟨rfl, new⟩, rfl, rfl, rfl, rfl⟩
  have runs := run_resembles fuel (fun op depth began _ => hidden (.began op depth) began) locked
  have policy := settings_of_reaches (Machine.reaches_run machine fuel
    (State.initial settings.endless name clock script))
  have debouncer := runs.store.debouncer.eq_with_settings
  rw [policy] at debouncer
  rw [runs.eq_with_store]
  have agenda := runs.store.agenda
  generalize (machine.run fuel (State.initial settings.endless name clock script)).store = store
    at debouncer agenda
  rcases store with ⟨opposite, other⟩
  cases debouncer
  cases agenda
  rfl

/-- A policy of one to two seconds without an idle time. -/
def oneToTwoAlone (leading : Bool) : Settings :=
  { fiveSeconds with interval := some .oneToTwo, leading := leading }

/-- A call at zero and another one at a half. The timer fires at one, where the work calls the
debouncer again and fails, and so it does at two in the next advance. Without an end the run is the
same. -/
theorem run_endless_of_failing_again :
    let calls : Script (Op Rat) (Reply Rat) :=
      .before [.request (.call (some (failingAgain [0]))), .advance (.ok (1 / 2)),
        .request (.call none), .advance (.ok 3), .advance (.ok 3), .request (.call none)]
        (.done (.ok .nothing))
    let bounded := machine.run 40 (State.initial (oneToTwoAlone false) .null 0 calls)
    (oneToTwoAlone false).InRange ∧ starts bounded.trace = [1, 2] ∧
      (∀ moment ∈ bounded.trace, Moment.showsPolicy moment = false) ∧
      machine.run 40 (State.initial (oneToTwoAlone false).endless .null 0 calls) =
        { bounded with
          store.debouncer :=
            { bounded.store.debouncer with settings := (oneToTwoAlone false).endless } } := by
  intro calls bounded
  have inRange : (oneToTwoAlone false).InRange := by
    constructor
    · rintro _ ⟨⟩
      decide
    · rintro _ _ ⟨⟩ ⟨⟩
      decide
    · rintro _ ⟨⟩
  have hidden : ∀ moment ∈ bounded.trace, Moment.showsPolicy moment = false := by decide +kernel
  exact ⟨inRange, by decide +kernel, hidden,
    run_endless (oneToTwoAlone false) .null 0 calls 40 inRange rfl hidden⟩

end DebouncerSession

end Debounce
