import Debounce.Proofs.Clock

/-!
# The times of a period

The instants that the rules of a debouncer name: the delay of a new timer, and the time that a call
asks a running timer to be moved to. The end of the interval caps the second one only.
-/

namespace Debounce

namespace Debouncer

variable {τ ω : Type} [Instant τ] {debouncer : Debouncer τ ω} {interval : Interval}

theorem begin_eq (bounds : debouncer.settings.interval = some interval) :
    debouncer.begin = interval.begin.seconds := by
  rw [begin, bounds]

theorem limit?_eq (bounds : debouncer.settings.interval = some interval) :
    debouncer.limit? = interval.limit?.map Duration.seconds := by
  rw [limit?, bounds]

/-- On the leading edge the two instants are moved back beyond the interval and the idle time. -/
theorem rewound_eq (bounds : debouncer.settings.interval = some interval)
    (edge : debouncer.settings.leading = true) (now : τ) :
    debouncer.rewound now =
      { debouncer with
        leadingTimestamp := some (now - interval.begin.seconds - rewind)
        lastCall := some (now - interval.begin.seconds - rewind -
          (debouncer.settings.idleTime.map Duration.seconds).getD Instant.zero) } := by
  simp [rewound, edge, Settings.passthrough, bounds, begin_eq bounds, idleTime?]

/-- The time that a call asks the running timer of a period to be moved to, before it is capped. -/
def wanted (debouncer : Debouncer τ ω) (stamp now : τ) : τ :=
  match debouncer.idleTime? with
  | none => stamp + debouncer.begin
  | some span =>
      if debouncer.gapIsIdleTime now span then stamp + debouncer.begin
      else Instant.later (stamp + debouncer.begin) (now + span)

theorem extension_eq_capped (bounds : debouncer.settings.interval = some interval) (stamp now : τ) :
    debouncer.extension stamp now =
      Instant.capped (interval.limit?.map fun last => stamp + last.seconds)
        (debouncer.wanted stamp now) := by
  rw [extension, limit?_eq bounds]
  cases interval.limit? <;> rfl

/-- The delay of a new timer is the least spacing, or the idle time where the last call is not that
long ago. -/
theorem firstDelay_cases (bounds : debouncer.settings.interval = some interval) (now : τ) :
    debouncer.firstDelay now = interval.begin.seconds ∨
      ∃ idle call, debouncer.settings.idleTime = some idle ∧ debouncer.lastCall = some call ∧
        now - call < idle.seconds ∧ (interval.begin.seconds : τ) < idle.seconds ∧
        debouncer.firstDelay now = idle.seconds := by
  rw [firstDelay, begin_eq bounds, idleTime?]
  cases idle : debouncer.settings.idleTime with
  | none => exact .inl rfl
  | some span =>
      cases debouncer.lastCall with
      | none => exact .inl rfl
      | some call =>
          simp only [Option.map_some]
          split
          · next near =>
              rw [Instant.later]
              split
              · next longer => exact .inr ⟨span, call, rfl, rfl, near, longer, rfl⟩
              · exact .inl rfl
          · exact .inl rfl

variable [Instant.Lawful τ] {stamp : τ}

theorem begin_le_wanted (bounds : debouncer.settings.interval = some interval)
    (inRange : interval.begin.InRange) (comparable : stamp ≤ stamp) (now : τ) :
    stamp + interval.begin.seconds ≤ debouncer.wanted stamp now := by
  have earliest : stamp + interval.begin.seconds ≤ stamp + interval.begin.seconds :=
    Instant.Lawful.add_seconds comparable inRange
  rw [wanted, begin_eq bounds]
  cases debouncer.idleTime? with
  | none => exact earliest
  | some span =>
      dsimp only
      split
      · exact earliest
      · exact Instant.le_later_left earliest _

/-- A running timer is never moved to a time before the least spacing has passed. -/
theorem begin_le_extension (bounds : debouncer.settings.interval = some interval)
    (inRange : interval.begin.InRange) (comparable : stamp ≤ stamp) (now : τ) :
    stamp + interval.begin.seconds ≤ debouncer.extension stamp now := by
  have raised := begin_le_wanted bounds inRange comparable now
  rw [extension_eq_capped bounds]
  apply Instant.le_capped raised
  intro cap capped numbers
  rcases Option.map_eq_some_iff.mp capped with ⟨last, limit, rfl⟩
  exact Instant.Lawful.add_le_add comparable
    (Instant.Lawful.ofMicros_le (interval.begin_le_limit last limit))
    (Instant.Lawful.le_left raised) numbers

/-- A running timer is never moved to a time beyond the cap. -/
theorem extension_le_limit {last : Duration}
    (bounds : debouncer.settings.interval = some interval) (limit : interval.limit? = some last)
    (inRange : interval.begin.InRange) (lastInRange : last.InRange) (comparable : stamp ≤ stamp)
    (now : τ) : debouncer.extension stamp now ≤ stamp + last.seconds := by
  have raised := begin_le_wanted bounds inRange comparable now
  rw [extension_eq_capped bounds, limit]
  exact Instant.sooner_le_right (Instant.Lawful.le_right raised)
    (Instant.Lawful.add_seconds comparable lastInRange)

/-- The delay of a new timer is the least spacing or longer. -/
theorem add_begin_le_add_firstDelay (bounds : debouncer.settings.interval = some interval)
    (inRange : debouncer.settings.InRange) (comparable : stamp ≤ stamp) (now : τ) :
    stamp + interval.begin.seconds ≤ stamp + debouncer.firstDelay now := by
  have earliest : stamp + interval.begin.seconds ≤ stamp + interval.begin.seconds :=
    Instant.Lawful.add_seconds comparable (inRange.begin interval bounds)
  rcases firstDelay_cases bounds now with least | ⟨idle, _, given, _, _, longer, delay⟩
  · rw [least]
    exact earliest
  · rw [delay]
    exact Instant.Lawful.add_le_add comparable (Instant.Lawful.le_of_lt longer) earliest
      (Instant.Lawful.add_seconds comparable (inRange.idleTime idle given))

end Debouncer

end Debounce
