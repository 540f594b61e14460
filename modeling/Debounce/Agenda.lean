import Debounce.Instant

/-!
# Timers and the agenda

A timer is pending until it is cancelled or claimed, which happens once at most; only a pending
timer can be moved. An agenda is a clock together with the timers that were set on it, in the
order of their creation; a timer is referred to by its place in that order. The programs of a
session refer to timers by labels of their own. A label stands for the timer that was set under it
last.
-/

namespace Debounce

/-- How far a timer has got. -/
inductive Phase where
  | pending
  | fired
  | cancelled
  deriving DecidableEq

/-- A one-shot timer with the thing to do when it fires. -/
structure Timer (τ κ : Type) where
  phase : Phase := .pending
  executionTime : τ
  callback : κ

namespace Timer

variable {τ κ : Type}

/-- The timer is still pending. -/
def active (timer : Timer τ κ) : Bool := timer.phase = .pending

/-- Cancels a pending timer; the flag says whether it was one. -/
def cancel (timer : Timer τ κ) : Bool × Timer τ κ :=
  if timer.active then (true, { timer with phase := .cancelled }) else (false, timer)

/-- Moves a pending timer. -/
def reschedule (time : τ) (timer : Timer τ κ) : Timer τ κ :=
  if timer.active then { timer with executionTime := time } else timer

/-- Takes a pending timer for firing; the flag says whether it was one. -/
def claim (timer : Timer τ κ) : Bool × Timer τ κ :=
  if timer.active then (true, { timer with phase := .fired }) else (false, timer)

/-- A pending timer whose remaining time at the given clock reading is not positive. -/
def expired [Instant τ] (clock : τ) (timer : Timer τ κ) : Bool :=
  timer.active && decide (timer.executionTime - clock ≤ Instant.zero)

/-- A check by the timer's own waiter: an expired timer begins to fire. -/
def check [Instant τ] (clock : τ) (timer : Timer τ κ) : Bool × Timer τ κ :=
  if timer.expired clock then timer.claim else (false, timer)

/-- A pending timer that is due at the given deadline. -/
def due [Instant τ] (deadline : τ) (timer : Timer τ κ) : Bool :=
  timer.active && decide (timer.executionTime ≤ deadline)

end Timer

/-- The place of a timer in the order of creation. -/
abbrev TimerId := Nat

/-- A clock and the timers set on it. -/
structure Agenda (τ κ : Type) where
  now : τ
  timers : List (Timer τ κ) := []

namespace Agenda

variable {τ κ : Type}

/-- The timer at a place. -/
def get? (agenda : Agenda τ κ) (id : TimerId) : Option (Timer τ κ) := agenda.timers[id]?

/-- Sets a new timer for the given time. -/
def add (agenda : Agenda τ κ) (time : τ) (callback : κ) : TimerId × Agenda τ κ :=
  (agenda.timers.length,
    { agenda with timers := agenda.timers ++ [{ executionTime := time, callback := callback }] })

/-- Sets a new timer after the given delay. -/
def schedule [Instant τ] (agenda : Agenda τ κ) (delay : τ) (callback : κ) :
    TimerId × Agenda τ κ :=
  agenda.add (agenda.now + delay) callback

/-- Changes a timer and tells the outcome; an unknown timer is left alone. -/
def update (agenda : Agenda τ κ) (id : TimerId) (change : Timer τ κ → Bool × Timer τ κ) :
    Bool × Agenda τ κ :=
  match agenda.timers[id]? with
  | none => (false, agenda)
  | some timer =>
      ((change timer).1, { agenda with timers := agenda.timers.set id (change timer).2 })

/-- Cancels a timer. -/
def cancel (agenda : Agenda τ κ) (id : TimerId) : Bool × Agenda τ κ := agenda.update id Timer.cancel

/-- Takes a timer for firing. -/
def claim (agenda : Agenda τ κ) (id : TimerId) : Bool × Agenda τ κ := agenda.update id Timer.claim

/-- Moves a timer. -/
def reschedule (agenda : Agenda τ κ) (id : TimerId) (time : τ) : Agenda τ κ :=
  (agenda.update id fun timer => (timer.active, timer.reschedule time)).2

/-- How many timers are pending. -/
def pendingCount (agenda : Agenda τ κ) : Nat := agenda.timers.countP Timer.active

/-- The timers with their places. -/
def entries (agenda : Agenda τ κ) : List (TimerId × Timer τ κ) :=
  agenda.timers.zipIdx.map fun (timer, id) => (id, timer)

/-- The entry with the earliest time; the first of several. -/
def earliest? [Instant τ] : List (TimerId × Timer τ κ) → Option (TimerId × Timer τ κ)
  | [] => none
  | entry :: rest => match earliest? rest with
      | none => some entry
      | some other =>
          if other.2.executionTime < entry.2.executionTime then some other else some entry

/-- Of the timers that pass the test, the one with the earliest time. -/
def next? [Instant τ] (agenda : Agenda τ κ) (test : Timer τ κ → Bool) :
    Option (TimerId × Timer τ κ) :=
  earliest? (agenda.entries.filter fun entry => test entry.2)

/-- Takes the next timer that is due at the deadline, and moves the clock on to its time unless it
is there already. -/
def fireNext? [Instant τ] (agenda : Agenda τ κ) (deadline : τ) :
    Option (TimerId × Timer τ κ × Agenda τ κ) :=
  match agenda.next? (Timer.due deadline) with
  | none => none
  | some (id, timer) =>
      let moved := { agenda with now := Instant.later agenda.now timer.executionTime }
      some (id, timer, (moved.claim id).2)

/-- Moves the clock on to the deadline unless it is there already. -/
def arrive [Instant τ] (agenda : Agenda τ κ) (deadline : τ) : Agenda τ κ :=
  { agenda with now := Instant.later agenda.now deadline }

/-- Takes the next timer that has expired by the agenda's own clock. -/
def expireNext? [Instant τ] (agenda : Agenda τ κ) : Option (TimerId × Timer τ κ × Agenda τ κ) :=
  match agenda.next? (Timer.expired agenda.now) with
  | none => none
  | some (id, timer) => some (id, timer, (agenda.update id (Timer.check agenda.now)).2)

end Agenda

/-- The timers by label, the latest first. -/
abbrev Labels := List (String × TimerId)

namespace Labels

/-- Puts a timer under a label. -/
def insert (labels : Labels) (label : String) (id : TimerId) : Labels := (label, id) :: labels

/-- The timer under a label. -/
def get? (labels : Labels) (label : String) : Option TimerId := labels.lookup label

/-- The labels in use, each once. -/
def names (labels : Labels) : List String := (labels.map Prod.fst).eraseDups

end Labels

end Debounce
