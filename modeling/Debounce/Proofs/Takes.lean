import Debounce.Proofs.Natural
import Debounce.Proofs.Passive

/-!
# Taking timers one after the other

A sweep takes the timers that are due at a deadline, one after the other, until none is left. It can
be cut short anywhere: what is left to be taken does not depend on how the sweep has come so far, nor
do callbacks have a say in it. Each timer is taken once, and the clock shows the time of the last one
unless it was later from the start.
-/

namespace Debounce

/-- The timer after it has fired. -/
def Timer.spent {τ κ : Type} (timer : Timer τ κ) : Timer τ κ := { timer with phase := .fired }

namespace Agenda

variable {τ κ κ' : Type} [Instant τ]

/-- An agenda without its callbacks. -/
def bare (agenda : Agenda τ κ) : Agenda τ Unit := agenda.map fun _ => ()

/-- Timers that are due at the deadline are taken one after the other, and more of them may be
due. -/
inductive Takes (deadline : τ) : Agenda τ κ → List (Firing τ) → Agenda τ κ → Prop where
  | nil {agenda : Agenda τ κ} : Takes deadline agenda [] agenda
  | cons {agenda fired last : Agenda τ κ} {id : TimerId} {timer : Timer τ κ}
      {firings : List (Firing τ)} :
      agenda.fireNext? deadline = some (id, timer, fired) → Takes deadline fired firings last →
      Takes deadline agenda (⟨id, timer.executionTime, fired.now⟩ :: firings) last

section Takes

variable {deadline : τ} {agenda middle fired last : Agenda τ κ} {id : TimerId} {timer : Timer τ κ}
variable {earlier firings : List (Firing τ)}

theorem Takes.one (found : agenda.fireNext? deadline = some (id, timer, fired)) :
    Takes deadline agenda [⟨id, timer.executionTime, fired.now⟩] fired :=
  .cons found .nil

theorem Takes.append (first : Takes deadline agenda earlier middle)
    (second : Takes deadline middle firings last) :
    Takes deadline agenda (earlier ++ firings) last := by
  induction first with
  | nil => exact second
  | cons found _ ih => exact .cons found (ih second)

/-- Callbacks do not decide which timers are taken. -/
theorem Takes.map (takes : Takes deadline agenda firings last) (replace : κ → κ') :
    Takes deadline (agenda.map replace) firings (last.map replace) := by
  induction takes with
  | nil => exact .nil
  | @cons agenda fired last id timer firings found _ ih =>
      have next : (agenda.map replace).fireNext? deadline =
          some (id, timer.map replace, fired.map replace) := by
        rw [fireNext?_map, found, Option.map_some]
      exact .cons next ih

/-- Where no timer is due none is taken. -/
theorem Takes.of_none (takes : Takes deadline agenda firings last)
    (absent : agenda.fireNext? deadline = none) : firings = [] ∧ last = agenda := by
  cases takes with
  | nil => exact ⟨rfl, rfl⟩
  | cons found _ => cases absent.symm.trans found

/-- What is taken first is taken first by all that take every timer that is due. -/
theorem Takes.split (first : Takes deadline agenda earlier middle)
    (whole : Takes deadline agenda firings last) (absent : last.fireNext? deadline = none) :
    ∃ rest, firings = earlier ++ rest ∧ Takes deadline middle rest last := by
  induction first generalizing firings with
  | nil => exact ⟨firings, rfl, whole⟩
  | cons found _ ih =>
      cases whole with
      | nil => cases absent.symm.trans found
      | cons same others =>
          cases found.symm.trans same
          obtain ⟨rest, rfl, takes⟩ := ih others
          exact ⟨rest, rfl, takes⟩

/-- All timers that are due are taken, and then the clock arrives at the deadline. -/
def Clears (deadline : τ) (agenda : Agenda τ κ) (firings : List (Firing τ)) (last : Agenda τ κ) :
    Prop :=
  ∃ middle, Takes deadline agenda firings middle ∧ middle.fireNext? deadline = none ∧
    last = middle.arrive deadline

/-- What has been taken before is taken by all that take every timer that is due. -/
theorem Takes.clears (first : Takes deadline agenda earlier middle)
    (rest : Clears deadline middle firings last) :
    Clears deadline agenda (earlier ++ firings) last := by
  obtain ⟨middle, takes, absent, arrived⟩ := rest
  exact ⟨middle, first.append takes, absent, arrived⟩

theorem Clears.begins (clears : Clears deadline agenda firings last)
    (first : Takes deadline agenda earlier middle) : earlier <+: firings := by
  obtain ⟨_, takes, absent, _⟩ := clears
  obtain ⟨rest, rfl, _⟩ := first.split takes absent
  exact List.prefix_append earlier rest

/-- There is one way of taking every timer that is due. -/
theorem Clears.unique {others : List (Firing τ)} {left : Agenda τ κ}
    (clears : Clears deadline agenda firings last) (same : Clears deadline agenda others left) :
    firings = others ∧ last = left := by
  obtain ⟨middle, takes, absent, rfl⟩ := clears
  obtain ⟨final, takesToo, none, rfl⟩ := same
  obtain ⟨rest, rfl, remains⟩ := takes.split takesToo none
  obtain ⟨rfl, rfl⟩ := remains.of_none absent
  exact ⟨(List.append_nil firings).symm, rfl⟩

theorem Clears.map (clears : Clears deadline agenda firings last) (replace : κ → κ') :
    Clears deadline (agenda.map replace) firings (last.map replace) := by
  obtain ⟨middle, takes, absent, rfl⟩ := clears
  refine ⟨middle.map replace, takes.map replace, ?_, rfl⟩
  rw [fireNext?_map, absent, Option.map_none]

/-- The timers that are taken are due. -/
theorem Takes.due (takes : Takes deadline agenda firings last) :
    ∀ firing ∈ firings, ∃ timer, agenda.get? firing.timer = some timer ∧
      timer.due deadline = true ∧ timer.executionTime = firing.executionTime := by
  induction takes with
  | nil => simp
  | @cons agenda fired last id timer firings found _ ih =>
      obtain ⟨stored, active, early, _⟩ := fireNext?_eq_some found
      rw [List.forall_mem_cons]
      refine ⟨⟨timer, stored, due_iff.mpr ⟨active, early⟩, rfl⟩, ?_⟩
      intro firing member
      obtain ⟨other, storedLater, dueLater, time⟩ := ih firing member
      rw [get?_of_fireNext? found] at storedLater
      split at storedLater
      · obtain rfl := Option.some.inj storedLater
        simp [Timer.due] at dueLater
      · exact ⟨other, storedLater, dueLater, time⟩

/-- A timer that has been taken is not due any more. -/
theorem Takes.ne_of_fireNext? (takes : Takes deadline fired firings last)
    (found : agenda.fireNext? deadline = some (id, timer, fired)) :
    ∀ firing ∈ firings, firing.timer ≠ id := by
  rintro firing member rfl
  obtain ⟨other, stored, due, _⟩ := takes.due firing member
  rw [get?_of_fireNext? found, if_pos rfl] at stored
  obtain rfl := Option.some.inj stored
  simp [Timer.due] at due

/-- No timer is taken twice. -/
theorem Takes.nodup (takes : Takes deadline agenda firings last) :
    (firings.map Firing.timer).Nodup := by
  induction takes with
  | nil => exact .nil
  | cons found takes ih =>
      refine List.nodup_cons.mpr ⟨?_, ih⟩
      rw [List.mem_map]
      rintro ⟨firing, member, same⟩
      exact takes.ne_of_fireNext? found firing member same

/-- The timers that are taken have fired, and all others are as they were. -/
theorem Takes.get? (takes : Takes deadline agenda firings last) (place : TimerId) :
    last.get? place =
      if place ∈ firings.map Firing.timer then (agenda.get? place).map Timer.spent
      else agenda.get? place := by
  induction takes with
  | nil => simp
  | @cons agenda fired last id timer firings found takes ih =>
      obtain ⟨stored, active, _, _⟩ := fireNext?_eq_some found
      have claimed : timer.claim.2 = timer.spent := by rw [Timer.claim, if_pos active, Timer.spent]
      rw [ih, get?_of_fireNext? found, claimed]
      by_cases same : place = id
      · subst same
        have once : place ∉ firings.map Firing.timer := by
          rw [List.mem_map]
          rintro ⟨firing, member, same⟩
          exact takes.ne_of_fireNext? found firing member same
        simp [once, stored]
      · simp [same]

variable [Instant.Lawful τ]

theorem comparable_of_fireNext? (found : agenda.fireNext? deadline = some (id, timer, fired))
    (comparable : agenda.now ≤ agenda.now) : fired.now ≤ fired.now := by
  rw [(fireNext?_eq_some found).2.2.2]
  exact Instant.Lawful.le_right (Instant.le_later_left comparable _)

/-- Taking timers leaves a clock that can be compared. -/
theorem Takes.comparable (takes : Takes deadline agenda firings last)
    (comparable : agenda.now ≤ agenda.now) : last.now ≤ last.now := by
  induction takes with
  | nil => exact comparable
  | cons found _ ih => exact ih (comparable_of_fireNext? found comparable)

/-- The clock shows the time of the timer that was taken last, or its first reading if that is
later. -/
theorem Takes.now_agree {firing : Firing τ}
    (takes : Takes deadline agenda (earlier ++ [firing]) last)
    (comparable : agenda.now ≤ agenda.now) :
    Instant.Agree last.now (Instant.later agenda.now firing.executionTime) := by
  induction earlier generalizing agenda with
  | nil =>
      cases takes with
      | cons found takes =>
          cases takes
          have moved := comparable_of_fireNext? found comparable
          rw [(fireNext?_eq_some found).2.2.2] at moved ⊢
          exact ⟨moved, moved⟩
  | cons first earlier ih =>
      cases takes with
      | @cons _ fired _ id timer _ found takes =>
          obtain ⟨other, stored, due, time⟩ := takes.due firing (by simp)
          have different := takes.ne_of_fireNext? found firing (by simp)
          rw [get?_of_fireNext? found, if_neg different] at stored
          obtain ⟨active, early⟩ := due_iff.mp due
          have ordered := fireNext?_le found stored active early
          rw [time] at ordered
          apply (ih takes (comparable_of_fireNext? found comparable)).trans
          rw [(fireNext?_eq_some found).2.2.2]
          exact Instant.later_later_agree comparable ordered

end Takes

end Agenda

end Debounce
