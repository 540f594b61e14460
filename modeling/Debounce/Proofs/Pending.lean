import Debounce.Proofs.Session

/-!
# The one pending timer

On an agenda that only a debouncer uses, the timer that the debouncer holds is pending and no
other timer is. Every turn keeps this, also the turns that run the work half-way, so it holds
whenever a work runs, fails, or calls the debouncer again.
-/

namespace Debounce

variable {τ κ ω : Type} [Instant τ]

namespace Debouncer

/-- What holds between the turns of a debouncer and the agenda that it uses alone. -/
structure Coherent (debouncer : Debouncer τ ω) (agenda : Agenda τ κ) : Prop where
  /-- The timer that is held is the one that is pending. -/
  holds : agenda.Holds debouncer.timer
  /-- A timer stands for a period, which has a beginning. -/
  stamped : debouncer.timer.isSome → debouncer.leadingTimestamp.isSome
  /-- A timer stands for a call, which found work. -/
  supplied : debouncer.timer.isSome → debouncer.work.isSome
  trailing : debouncer.timer.isSome →
    debouncer.settings.passthrough = false ∧ debouncer.settings.leading = false

/-- A request takes no time. -/
theorem Served.now {debouncer : Debouncer τ ω} {agenda : Agenda τ κ} {callback : κ}
    {request : Request ω} {turn : Turn τ (Agenda τ κ) ω}
    (form : Served debouncer agenda callback request turn) : turn.scheduler.now = agenda.now := by
  cases form with
  | leading _ _ _ call => cases call <;> rfl
  | trailing _ _ _ call => cases call <;> simp [startTimer, recorded, execute]
  | reset => cases held : debouncer.timer <;> simp [Debouncer.reset, held]
  | refusedCall | passedOn | refusedNow | ranNow | nothingToFlush => rfl
  | flushed | tooLateToFlush => simp [execute]

namespace Coherent

variable {debouncer : Debouncer τ ω} {agenda : Agenda τ κ} {callback : κ}
variable {request : Request ω} {turn : Turn τ (Agenda τ κ) ω} {now : τ}

theorem new (settings : Settings) (name : Value) :
    (Debouncer.new settings name now : Debouncer τ ω).Coherent
      ({ now := now } : Agenda τ κ) := by
  have free : (Debouncer.new settings name now : Debouncer τ ω).timer = none := by
    simp [Debouncer.new]
  exact ⟨free ▸ Agenda.holds_nil now, by simp [free], by simp [free], by simp [free]⟩

omit [Instant τ] in
/-- A debouncer that lets go of its timer is coherent if no timer is pending. -/
theorem of_timer_eq_none {agenda : Agenda τ κ} (free : debouncer.timer = none)
    (holds : agenda.Holds none) : debouncer.Coherent agenda :=
  ⟨free ▸ holds, by simp [free], by simp [free], by simp [free]⟩

omit [Instant τ] in
/-- A timer that is held can be cancelled. -/
theorem cancels {id : TimerId} (coherent : debouncer.Coherent agenda)
    (held : debouncer.timer = some id) : (agenda.cancel id).1 = true := by
  rw [Agenda.cancel_outcome]
  exact (coherent.holds id).mpr held

omit [Instant τ] in
theorem holds_cancel {id : TimerId} (coherent : debouncer.Coherent agenda)
    (held : debouncer.timer = some id) : (agenda.cancel id).2.Holds none :=
  Agenda.Holds.cancel (held ▸ coherent.holds)

/-- A timer that is held is active, in a period that began at some instant. -/
theorem awaits {id : TimerId} (coherent : debouncer.Coherent agenda)
    (held : debouncer.timer = some id) : ∃ time stamp, Awaits debouncer agenda id time stamp := by
  rcases Agenda.isPending_iff.mp ((coherent.holds id).mpr held) with ⟨time, status⟩
  rcases Option.isSome_iff_exists.mp (coherent.stamped (by simp [held])) with ⟨stamp, stamped⟩
  exact ⟨time, stamp, held, status, stamped⟩

/-- A coherent debouncer is pending when it holds a timer. -/
theorem pending_eq (coherent : debouncer.Coherent agenda) :
    debouncer.pending agenda = debouncer.timer.isSome := by
  cases held : debouncer.timer with
  | none => simp [pending, timerStatus?, held]
  | some id => exact pending_iff.mpr ⟨id, held, (coherent.holds id).mpr held⟩

/-- Where no timer is active, none is held. -/
theorem timer_eq_none (coherent : debouncer.Coherent agenda)
    (absent : ∀ id time stamp, ¬ Awaits debouncer agenda id time stamp) :
    debouncer.timer = none := by
  cases held : debouncer.timer with
  | none => rfl
  | some id =>
      rcases coherent.awaits held with ⟨time, stamp, awaits⟩
      exact absurd awaits (absent id time stamp)

omit [Instant τ] in
/-- On the leading edge no timer is held. -/
theorem timer_eq_none_of_leading (coherent : debouncer.Coherent agenda)
    (edge : debouncer.settings.leading = true) : debouncer.timer = none := by
  cases held : debouncer.timer with
  | none => rfl
  | some id =>
      have trailing := (coherent.trailing (by simp [held])).2
      simp [edge] at trailing

omit [Instant τ] in
theorem rebind (coherent : debouncer.Coherent agenda) (work : ω) :
    ({ debouncer with work := some work } : Debouncer τ ω).Coherent agenda :=
  ⟨coherent.holds, coherent.stamped, by simp, coherent.trailing⟩

omit [Instant τ] in
theorem record (coherent : debouncer.Coherent agenda) (call? : Option τ) :
    ({ debouncer with lastCall := call? } : Debouncer τ ω).Coherent agenda :=
  ⟨coherent.holds, coherent.stamped, coherent.supplied, coherent.trailing⟩

theorem trailingCall (coherent : debouncer.Coherent agenda) (supplied : debouncer.work.isSome)
    (through : debouncer.settings.passthrough = false)
    (edge : debouncer.settings.leading = false)
    (form : TrailingCall debouncer agenda callback now turn) :
    turn.debouncer.Coherent turn.scheduler := by
  cases form with
  | opened absent =>
      have holds : agenda.Holds none := coherent.timer_eq_none absent ▸ coherent.holds
      exact ⟨holds.add _ callback, fun _ => rfl, fun _ => supplied, fun _ => ⟨through, edge⟩⟩
  | overdue awaits _ _ => exact of_timer_eq_none rfl (coherent.holds_cancel awaits.timer)
  | overtaken awaits _ refused => simp [coherent.cancels awaits.timer] at refused
  | moved _ _ _ =>
      exact ⟨coherent.holds.reschedule _ _, coherent.stamped, coherent.supplied, coherent.trailing⟩
  | kept _ _ _ => exact coherent.record _

theorem reset (coherent : debouncer.Coherent agenda) :
    (debouncer.reset agenda).debouncer.Coherent (debouncer.reset agenda).scheduler := by
  apply of_timer_eq_none (by simp [Debouncer.reset])
  cases held : debouncer.timer with
  | none => simpa [Debouncer.reset, held] using coherent.holds
  | some id => simpa [Debouncer.reset, held] using coherent.holds_cancel held

/-- Serving a request keeps the debouncer and its agenda coherent. -/
theorem served (coherent : debouncer.Coherent agenda)
    (form : Served debouncer agenda callback request turn) :
    turn.debouncer.Coherent turn.scheduler := by
  cases form with
  | refusedCall _ | refusedNow _ | ranNow _ | nothingToFlush _ => exact coherent
  | passedOn _ _ => exact coherent.rebind _
  | leading _ _ _ call =>
      cases call with
      | ignored _ => exact (coherent.rebind _).record _
      | executed _ _ =>
          exact ⟨coherent.holds, fun _ => rfl, fun _ => rfl, coherent.trailing⟩
  | trailing _ through edge call =>
      exact (coherent.rebind _).trailingCall rfl through edge call
  | reset => exact coherent.reset
  | flushed held _ => exact of_timer_eq_none rfl (coherent.holds_cancel held)
  | tooLateToFlush held refused => simp [coherent.cancels held] at refused

theorem arrive (coherent : debouncer.Coherent agenda) (deadline : τ) :
    debouncer.Coherent (agenda.arrive deadline) :=
  ⟨coherent.holds.of_timers rfl, coherent.stamped, coherent.supplied, coherent.trailing⟩

/-- The next timer that is due is the one that is held. -/
theorem timer_of_fireNext? {deadline : τ} {id : TimerId} {timer : Timer τ κ}
    {fired : Agenda τ κ} (coherent : debouncer.Coherent agenda)
    (found : agenda.fireNext? deadline = some (id, timer, fired)) :
    debouncer.timer = some id ∧ fired.Holds none := by
  rcases Agenda.fireNext?_eq_some found with ⟨stored, active, _, rfl⟩
  have held : debouncer.timer = some id :=
    (coherent.holds id).mp (by simp [Agenda.isPending, stored, active])
  exact ⟨held, (Agenda.Holds.claim (held ▸ coherent.holds)).of_timers rfl⟩

/-- Firing the next timer that is due keeps the debouncer and its agenda coherent. -/
theorem fire {deadline : τ} {id : TimerId} {timer : Timer τ κ} {fired : Agenda τ κ}
    (coherent : debouncer.Coherent agenda)
    (found : agenda.fireNext? deadline = some (id, timer, fired)) :
    (debouncer.fire fired id).debouncer.Coherent (debouncer.fire fired id).scheduler := by
  rcases coherent.timer_of_fireNext? found with ⟨held, holds⟩
  exact of_timer_eq_none (fire_timer fired held) holds

end Coherent

end Debouncer

namespace DebouncerSession

theorem Passage.coherent {store : Store τ} {outcome : Outcome τ}
    (passage : Passage store outcome) (coherent : store.debouncer.Coherent store.agenda) :
    outcome.store.debouncer.Coherent outcome.store.agenda := by
  cases passage with
  | answered => exact coherent
  | recorded => exact coherent.record _
  | arrived _ => exact coherent.arrive _
  | fired found => simpa [take, Store.firing] using coherent.fire found

/-- In every state of a run the debouncer and its agenda are coherent. -/
theorem coherent_of_reaches {settings : Settings} {name : Value} {clock : τ}
    {script : Script (Op τ) (Reply τ)} {state : State τ}
    (reaches : machine.Reaches (State.initial settings name clock script) state) :
    state.store.debouncer.Coherent state.store.agenda := by
  refine keeps_store reaches (fun store => store.debouncer.Coherent store.agenda) ?_
    (fun store outcome => Passage.coherent) (Debouncer.Coherent.new settings name)
  intro request store coherent
  simpa [start, take] using
    coherent.served (Debouncer.served_serve store.debouncer store.agenda () request)

/-- At most one timer is pending, and it is the one that the debouncer holds: in every state of a
run, also inside works, a timer that is held is active, the count of pending timers is one or none
as the debouncer is pending or not, and only the trailing edge ever holds a timer. -/
theorem only_held_timer_pending (settings : Settings) (name : Value) (clock : τ)
    (script : Script (Op τ) (Reply τ)) (state : State τ)
    (reaches : machine.Reaches (State.initial settings name clock script) state) :
    (state.store.debouncer.timer = none ∨
        state.store.debouncer.pending state.store.agenda = true) ∧
      (∀ id, state.store.agenda.isPending id = true ↔ state.store.debouncer.timer = some id) ∧
      state.store.agenda.pendingCount =
        (if state.store.debouncer.pending state.store.agenda = true then 1 else 0) ∧
      (settings.leading = true ∨ settings.passthrough = true →
        state.store.debouncer.timer = none) := by
  have coherent := coherent_of_reaches reaches
  have pending : state.store.debouncer.pending state.store.agenda =
      state.store.debouncer.timer.isSome := coherent.pending_eq
  refine ⟨?_, coherent.holds, ?_, ?_⟩
  · rw [pending]
    cases state.store.debouncer.timer <;> simp
  · rw [pending]
    exact coherent.holds.pendingCount
  · intro other
    cases held : state.store.debouncer.timer with
    | none => rfl
    | some id =>
        have edge := coherent.trailing (by simp [held])
        rw [settings_of_reaches reaches] at edge
        simp [edge] at other

/-- A work that calls its debouncer again and then fails. -/
def failingAgain (id : WorkId) : Work (Op Rat) (Reply Rat) where
  id := id
  name := "again"
  body _ := .step (.request (.call none)) fun _ => .done (.error (.raised .value []))

/-- A work that runs inside an advance has just called the debouncer again: the new timer is
pending, and the one that is firing is not. -/
theorem only_held_timer_pending_inside_work :
    let first := State.initial fiveSeconds .null 0
      (.before [.request (.call (some (failingAgain [0]))), .advance (.ok 7)]
        (.done (.ok .nothing)))
    let state := machine.run 3 first
    machine.Reaches first state ∧ state.stack.length = 1 ∧
      state.store.debouncer.pending state.store.agenda = true ∧
      state.store.agenda.timers.length = 2 ∧ state.store.agenda.pendingCount = 1 := by
  intro first state
  have reaches := Machine.reaches_run machine 3 first
  have pending : state.store.debouncer.pending state.store.agenda = true := by decide +kernel
  have all := only_held_timer_pending _ _ _ _ state reaches
  rw [pending] at all
  exact ⟨reaches, by decide +kernel, pending, by decide +kernel, all.2.2.1⟩

end DebouncerSession

end Debounce
