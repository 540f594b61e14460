import Debounce.Agenda

/-!
# Schedulers

What a debouncer needs of the thing that keeps its time: a clock, and timers that it can set, look
at, cancel and move. An agenda is a scheduler. A bench is a scheduler worked by hand, on which a
timer can be made to refuse its cancellation.
-/

namespace Debounce

/-- What can be seen of a timer. -/
structure Timer.Status (τ : Type) where
  active : Bool
  executionTime : τ

/-- What can be seen of a timer of any kind. -/
def Timer.status {τ κ : Type} (timer : Timer τ κ) : Timer.Status τ :=
  ⟨timer.active, timer.executionTime⟩

/-- A state `σ` that serves as a clock with readings in `τ` and holds timers for callbacks `κ`. -/
class Scheduler (σ : Type) (τ κ : outParam Type) where
  now : σ → τ
  schedule : σ → τ → κ → TimerId × σ
  status? : σ → TimerId → Option (Timer.Status τ)
  cancel : σ → TimerId → Bool × σ
  reschedule : σ → TimerId → τ → σ

instance {τ κ : Type} [Instant τ] : Scheduler (Agenda τ κ) τ κ where
  now := Agenda.now
  schedule := Agenda.schedule
  status? agenda id := (agenda.get? id).map Timer.status
  cancel := Agenda.cancel
  reschedule := Agenda.reschedule

/-- A clock and timers that are worked by hand. -/
structure Bench (τ κ : Type) where
  agenda : Agenda τ κ
  /-- The timers that refuse to be cancelled. -/
  stuck : List TimerId := []

namespace Bench

variable {τ κ : Type}

/-- Sets the clock. -/
def setClock (bench : Bench τ κ) (time : τ) : Bench τ κ :=
  { bench with agenda := { bench.agenda with now := time } }

/-- Makes a timer inactive without firing it. -/
def deactivate (bench : Bench τ κ) (id : TimerId) : Bench τ κ :=
  { bench with agenda := (bench.agenda.claim id).2 }

/-- Makes a timer refuse its cancellation. -/
def stick (bench : Bench τ κ) (id : TimerId) : Bench τ κ :=
  { bench with stuck := id :: bench.stuck }

/-- Cancels a timer unless it is stuck. -/
def cancel (bench : Bench τ κ) (id : TimerId) : Bool × Bench τ κ :=
  if bench.stuck.contains id then (false, bench)
  else
    let (cancelled, agenda) := bench.agenda.cancel id
    (cancelled, { bench with agenda := agenda })

/-- Moves a timer, pending or not. -/
def reschedule (bench : Bench τ κ) (id : TimerId) (time : τ) : Bench τ κ :=
  { bench with
    agenda := (bench.agenda.update id fun timer =>
      (true, { timer with executionTime := time })).2 }

instance [Instant τ] : Scheduler (Bench τ κ) τ κ where
  now bench := bench.agenda.now
  schedule bench delay callback :=
    let (id, agenda) := bench.agenda.schedule delay callback
    (id, { bench with agenda := agenda })
  status? bench id := (bench.agenda.get? id).map Timer.status
  cancel := cancel
  reschedule := reschedule

end Bench

end Debounce
