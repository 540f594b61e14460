import Debounce.Proofs.Mirror
import Debounce.Proofs.Resemblance
import Debounce.Proofs.Reset
import Debounce.Proofs.Spacing

/-!
# Debouncers that are as good as new

A reset does not clear everything: on the trailing edge the beginning of the last period and the
instant of the last call stay where they are, and the timers that were set before stay on the
agenda. None of this can be told by what the debouncer does later. It acts like a new debouncer on an
agenda of its own, whose clock starts where the reset was made.
-/

namespace Debounce

variable {τ : Type}

/-- The event without the place of the timer that fires. -/
def Event.unplaced : Event τ → Event τ
  | .executed debouncer (.timer _) => .executed debouncer (.timer 0)
  | .timerFired _ time => .timerFired 0 time
  | told => told

namespace Debouncer

variable {ω : Type} [Instant τ] {debouncer : Debouncer τ ω} {agenda fired : Agenda τ Unit}
variable {deadline : τ} {id : TimerId} {timer : Timer τ Unit}

/-! ## The time of the one timer -/

namespace Coherent

variable (coherent : debouncer.Coherent agenda)
include coherent

omit [Instant τ] in
theorem minds : debouncer.Minds () agenda := by
  refine ⟨?_, coherent.stamped, coherent.supplied⟩
  intro id
  rw [← coherent.holds id, Agenda.isPending_iff_pending?]
  simp

theorem time?_of_fireNext? (found : agenda.fireNext? deadline = some (id, timer, fired)) :
    debouncer.time? agenda = some timer.executionTime := by
  rcases Agenda.fireNext?_eq_some found with ⟨stored, active, _, _⟩
  rw [time?, (coherent.timer_of_fireNext? found).1, Option.bind_some,
    Agenda.pending?_eq_some.mpr ⟨stored, active⟩, Option.map_some]

/-- Nothing is due unless the timer that is held is. -/
theorem fireNext?_eq_none_iff :
    agenda.fireNext? deadline = none ↔
      ∀ time, debouncer.time? agenda = some time → ¬ time ≤ deadline := by
  constructor
  · intro absent time timed due
    rcases coherent.minds.awaits_of_time? timed with ⟨id, stamp, awaits⟩
    rcases Agenda.status?_eq_some.mp awaits.status with ⟨timer, stored, active, rfl⟩
    exact Agenda.fireNext?_ne_none stored active due absent
  · intro late
    cases found : agenda.fireNext? deadline with
    | none => rfl
    | some next =>
        rcases next with ⟨id, timer, fired⟩
        exact absurd (Agenda.fireNext?_eq_some found).2.2.1
          (late _ (coherent.time?_of_fireNext? found))

end Coherent

section Fields

variable {other : Debouncer τ ω} {opposite : Agenda τ Unit}
variable (mirrors : debouncer.Mirrors other agenda opposite)
include mirrors

omit [Instant τ]

theorem Mirrors.settings : other.settings = debouncer.settings := by rw [mirrors.fields]

theorem Mirrors.name : other.name = debouncer.name := by rw [mirrors.fields]

theorem Mirrors.work : other.work = debouncer.work := by rw [mirrors.fields]

end Fields

end Debouncer

/-! ## Sessions that mirror each other -/

namespace DebouncerSession

variable [Instant τ]

/-- The clocks show the same, and the debouncers mirror each other, each of them on an agenda that it
uses alone. -/
structure Store.Mirrors (store other : Store τ) : Prop where
  clocks : other.agenda.now = store.agenda.now
  debouncers : store.debouncer.Mirrors other.debouncer store.agenda other.agenda
  coherent : store.debouncer.Coherent store.agenda
  opposite : other.debouncer.Coherent other.agenda

/-- The outcomes are the same but for the places of timers, and leave stores that mirror each other.
-/
abbrev Outcome.Mirrors (outcome other : Outcome τ) : Prop :=
  Machine.EffectsAgree Event.unplaced Store.Mirrors outcome other

variable {store other : Store τ}

omit [Instant τ] in
theorem mirrors_answer {before after : Store τ} (mirrors : before.Mirrors after)
    (reply : Reply τ) : Outcome.Mirrors (answer before reply) (answer after reply) :=
  ⟨mirrors, rfl, rfl⟩

theorem mirrors_take (turn opposite : Turn τ (Agenda τ Unit) (Work (Op τ) (Reply τ)))
    (left : Store.Mirrors ⟨turn.scheduler, turn.debouncer⟩
      ⟨opposite.scheduler, opposite.debouncer⟩)
    (events : opposite.events.map Event.unplaced = turn.events.map Event.unplaced)
    (demand : opposite.demand = turn.demand) (frame : Tail τ → Frame τ) :
    Outcome.Mirrors (take turn frame) (take opposite frame) := by
  have held : opposite.debouncer.work = turn.debouncer.work := left.debouncers.work
  have clock : Scheduler.now opposite.scheduler = Scheduler.now turn.scheduler := left.clocks
  rw [take, take, Turn.effect, Turn.effect, demand, held]
  cases turn.demand with
  | reply reply => exact ⟨left, events, rfl⟩
  | execute tail =>
      cases turn.debouncer.work with
      | none => exact ⟨left, events, rfl⟩
      | some work =>
          refine ⟨left, ?_, rfl⟩
          rw [List.map_append, List.map_append, events, clock]

namespace Store.Mirrors

variable (mirrors : store.Mirrors other)
include mirrors

theorem fireNext?_eq_none_iff (deadline : τ) :
    other.agenda.fireNext? deadline = none ↔ store.agenda.fireNext? deadline = none := by
  rw [mirrors.coherent.fireNext?_eq_none_iff, mirrors.opposite.fireNext?_eq_none_iff,
    mirrors.debouncers.times]

theorem arrive (deadline : τ) :
    Store.Mirrors { store with agenda := store.agenda.arrive deadline }
      { other with agenda := other.agenda.arrive deadline } := by
  refine ⟨?_, ⟨mirrors.debouncers.fields, mirrors.debouncers.times⟩,
    mirrors.coherent.arrive deadline, mirrors.opposite.arrive deadline⟩
  simp only [Agenda.arrive, mirrors.clocks]

/-- The timers fire at the same time, and leave debouncers that are the same. -/
theorem fire {deadline : τ} {id place : TimerId} {timer twin : Timer τ Unit}
    {agenda opposite : Agenda τ Unit}
    (found : store.agenda.fireNext? deadline = some (id, timer, agenda))
    (facing : other.agenda.fireNext? deadline = some (place, twin, opposite))
    (frame : Tail τ → Frame τ) :
    Outcome.Mirrors (take (store.firing agenda id timer) frame)
      (take (other.firing opposite place twin) frame) := by
  have held := (mirrors.coherent.timer_of_fireNext? found).1
  have kept := (mirrors.opposite.timer_of_fireNext? facing).1
  have time : twin.executionTime = timer.executionTime := by
    have placed := mirrors.opposite.time?_of_fireNext? facing
    rw [mirrors.debouncers.times, mirrors.coherent.time?_of_fireNext? found] at placed
    exact (Option.some.inj placed).symm
  have clocks : opposite.now = agenda.now := by
    rw [(Agenda.fireNext?_eq_some found).2.2.2, (Agenda.fireNext?_eq_some facing).2.2.2, time,
      mirrors.clocks]
  have same : (other.debouncer.fire opposite place).debouncer =
      (store.debouncer.fire agenda id).debouncer := by
    simp only [Debouncer.fire, Debouncer.execute, held, kept, if_true]
    rw [mirrors.debouncers.fields]
  have debouncers : (store.debouncer.fire agenda id).debouncer.Mirrors
      (other.debouncer.fire opposite place).debouncer agenda opposite := by
    rw [same]
    exact .of_timer_eq_none (Debouncer.fire_timer agenda held)
  have left : Store.Mirrors ⟨agenda, (store.debouncer.fire agenda id).debouncer⟩
      ⟨opposite, (other.debouncer.fire opposite place).debouncer⟩ :=
    ⟨clocks, debouncers, mirrors.coherent.fire found, mirrors.opposite.fire facing⟩
  apply mirrors_take (store.firing agenda id timer) (other.firing opposite place twin) left
  · simp [firing, Debouncer.fire, Debouncer.execute, Event.unplaced, time, held, kept,
      mirrors.debouncers.name]
  · rfl

theorem sweep (deadline : τ) (fired : Nat) :
    Outcome.Mirrors (DebouncerSession.sweep store deadline fired)
      (DebouncerSession.sweep other deadline fired) := by
  have dues := mirrors.fireNext?_eq_none_iff deadline
  rw [DebouncerSession.sweep, DebouncerSession.sweep]
  cases found : store.agenda.fireNext? deadline with
  | none =>
      rw [dues.mpr found]
      exact mirrors_answer (mirrors.arrive deadline) _
  | some next =>
      cases facing : other.agenda.fireNext? deadline with
      | none => cases found.symm.trans (dues.mp facing)
      | some beyond => exact mirrors.fire found facing _

theorem start (op : Op τ) :
    Outcome.Mirrors (DebouncerSession.start op store) (DebouncerSession.start op other) := by
  have settings := mirrors.debouncers.settings
  cases op with
  | request request =>
      have served := Debouncer.served_serve store.debouncer store.agenda () request
      have facing := Debouncer.served_serve other.debouncer other.agenda () request
      have turns := mirrors.debouncers.serve mirrors.coherent.minds mirrors.opposite.minds
        mirrors.clocks request
      refine mirrors_take _ _ ⟨?_, turns.left, mirrors.coherent.served served,
        mirrors.opposite.served facing⟩ (by rw [turns.events]) turns.demand _
      rw [served.now, facing.now, mirrors.clocks]
  | advance delay =>
      cases delay with
      | error fault => exact mirrors_answer mirrors _
      | ok delay =>
          rw [DebouncerSession.start, DebouncerSession.start, mirrors.clocks]
          exact mirrors.sweep _ 0
  | now =>
      rw [DebouncerSession.start, DebouncerSession.start, mirrors.clocks]
      exact mirrors_answer mirrors _
  | policy =>
      rw [DebouncerSession.start, DebouncerSession.start, settings]
      exact mirrors_answer mirrors _
  | text =>
      have text : other.debouncer.constructorText = store.debouncer.constructorText := by
        rw [mirrors.debouncers.fields]
        rfl
      rw [DebouncerSession.start, DebouncerSession.start, text]
      exact mirrors_answer mirrors _

theorem resume (frame : Frame τ) (reply : Reply τ) :
    Outcome.Mirrors (DebouncerSession.resume frame reply store)
      (DebouncerSession.resume frame reply other) := by
  cases frame with
  | serving tail =>
      rcases mirrors.debouncers.finish tail reply with ⟨debouncers, same⟩
      have left : Store.Mirrors
          { store with debouncer := (store.debouncer.finish tail reply).1 }
          { other with debouncer := (other.debouncer.finish tail reply).1 } := by
        refine ⟨mirrors.clocks, debouncers, ?_, ?_⟩
        · rw [Debouncer.finish_eq]
          exact mirrors.coherent.record _
        · rw [Debouncer.finish_eq]
          exact mirrors.opposite.record _
      rw [DebouncerSession.resume, DebouncerSession.resume]
      dsimp only
      rw [same]
      exact mirrors_answer left _
  | advancing deadline fired =>
      cases reply with
      | error fault => exact mirrors_answer mirrors _
      | ok value => exact mirrors.sweep deadline fired

end Store.Mirrors

/-- Runs from sessions that mirror each other are the same but for the places of timers. -/
theorem run_mirrors (fuel : Nat) {state opposite : State τ}
    (locked : Machine.Lockstep Event.unplaced Store.Mirrors state opposite) :
    Machine.Lockstep Event.unplaced Store.Mirrors (machine.run fuel state)
      (machine.run fuel opposite) :=
  Machine.run_lockstep (fun _ => True) (fun op _ _ _ mirrors => mirrors.start op)
    (fun frame reply _ _ mirrors => mirrors.resume frame reply) fuel (fun _ _ _ => trivial) locked

end DebouncerSession

/-! ## New debouncers -/

namespace Debouncer

variable {ω : Type} [Instant τ] {debouncer : Debouncer τ ω} {agenda : Agenda τ Unit}

/-- A new debouncer with the same policy and the same name, which is given the same work. -/
def renewed (debouncer : Debouncer τ ω) (now : τ) : Debouncer τ ω :=
  { (new debouncer.settings debouncer.name now : Debouncer τ ω) with work := debouncer.work }

theorem rewound_of_rewinds (debouncer : Debouncer τ ω)
    (edge : debouncer.settings.rewinds = true) (now : τ) :
    debouncer.rewound now =
      { debouncer with
        leadingTimestamp := some (now - debouncer.begin - rewind)
        lastCall := some (now - debouncer.begin - rewind -
          debouncer.idleTime?.getD Instant.zero) } :=
  if_pos edge

theorem rewound_of_not_rewinds (debouncer : Debouncer τ ω)
    (off : debouncer.settings.rewinds = false) (now : τ) :
    debouncer.rewound now = debouncer :=
  if_neg (Bool.eq_false_iff.mp off)

/-- What a reset leaves in the debouncer and would not be there in a new one does not matter: on the
leading edge the instants are made up anew, and otherwise they are not looked at again. -/
theorem resembles_renewed (free : debouncer.timer = none)
    (kind : debouncer.settings.leading = true ∨ debouncer.settings.idleTime = none) (now : τ) :
    (debouncer.rewound now).Resembles { stamp := true, call := true }
      (debouncer.renewed now) := by
  let blank : Debouncer τ ω := { settings := debouncer.settings, name := debouncer.name }
  cases rewinds : debouncer.settings.rewinds with
  | true =>
      rw [renewed, new, rewound_of_rewinds debouncer rewinds, rewound_of_rewinds blank rewinds]
      exact ⟨by rw [free], .inl rfl, .inl rfl, .inl rfl⟩
  | false =>
      have past : debouncer.settings.idleTime = none ∨ debouncer.settings.passthrough = true := by
        rcases kind with edge | unset
        · exact .inr (by simpa [Settings.rewinds, edge] using rewinds)
        · exact .inl unset
      rw [renewed, new, rewound_of_not_rewinds debouncer rewinds,
        rewound_of_not_rewinds blank rewinds]
      exact ⟨by rw [free], .inl rfl, .inr ⟨rfl, free, rewinds⟩, .inr ⟨rfl, past⟩⟩

theorem renewed_timer (now : τ) : (debouncer.renewed now).timer = none := by
  simp [renewed, new]

end Debouncer

namespace DebouncerSession

variable [Instant τ]

/-- The clocks show the same, and so do the debouncers: one is pending if the other one is, with a
timer for the same time. -/
structure Store.LooksLike (store other : Store τ) : Prop where
  now : other.agenda.now = store.agenda.now
  pending : other.debouncer.pending other.agenda = store.debouncer.pending store.agenda
  timer : other.debouncer.timerStatus? other.agenda = store.debouncer.timerStatus? store.agenda

theorem Store.Mirrors.looksLike {slack : Slack} {store other third : Store τ}
    (resembles : store.Resembles slack other) (mirrors : other.Mirrors third) :
    store.LooksLike third := by
  have timer : third.debouncer.timerStatus? third.agenda =
      store.debouncer.timerStatus? store.agenda := by
    rw [mirrors.opposite.minds.timerStatus?_eq, mirrors.debouncers.times,
      ← mirrors.coherent.minds.timerStatus?_eq, resembles.agenda,
      resembles.debouncer.timerStatus?]
  refine ⟨mirrors.clocks.trans (by rw [resembles.agenda]), ?_, timer⟩
  rw [Debouncer.pending, Debouncer.pending, timer]

/-- A new debouncer mirrors itself, whatever was set before on the agenda. -/
theorem mirrors_renewed {debouncer : Debouncer τ (Work (Op τ) (Reply τ))} {agenda : Agenda τ Unit}
    (holds : agenda.Holds none) :
    Store.Mirrors ⟨agenda, debouncer.renewed agenda.now⟩
      (.new (debouncer.renewed agenda.now) agenda.now) := by
  have free := debouncer.renewed_timer agenda.now
  exact ⟨rfl, .of_timer_eq_none free, .of_timer_eq_none free holds,
    .of_timer_eq_none free (Agenda.holds_nil _)⟩

/-- A reset is as good as a new start. On the leading edge, and on the trailing edge without an idle
time, a session that goes on after a reset cannot be told from one that goes on with a new debouncer
that has the same policy and work, on an empty agenda whose clock shows the same: whatever script
comes next, after every number of steps the same operations have begun and ended with the same
replies, the same works have begun to run at the same clock readings, and the debouncers show the
same. The places of timers in the order of their creation differ, and that is all. -/
theorem reset_renews (settings : Settings) (name : Value) (clock : τ)
    (script later : Script (Op τ) (Reply τ)) (next : Reply τ → Script (Op τ) (Reply τ))
    (state after : State τ) (fuel : Nat)
    (kind : settings.leading = true ∨ settings.idleTime = none)
    (reaches : machine.Reaches (State.initial settings name clock script) state)
    (resets : state.script = .step (.request .reset) next)
    (stepped : machine.step? state = some after) :
    let now := after.store.agenda.now
    let fresh : State τ := { after with store := .new (state.store.debouncer.renewed now) now }
    Machine.Lockstep Event.unplaced Store.LooksLike
      (machine.run fuel { after with script := later })
      (machine.run fuel { fresh with script := later }) := by
  intro now fresh
  have policy := settings_of_reaches reaches
  subst policy
  have coherent := coherent_of_reaches (reaches.step stepped)
  have left : after.store = ⟨(state.store.debouncer.reset state.store.agenda).scheduler,
      (state.store.debouncer.reset state.store.agenda).debouncer⟩ :=
    (Machine.start_of_step? resets stepped).1.trans Turn.effect_store
  have free : after.store.debouncer.timer = none := by
    rw [left]
    simp [Debouncer.reset]
  let renewed : Store τ := ⟨after.store.agenda, state.store.debouncer.renewed now⟩
  have resembles : after.store.Resembles { stamp := true, call := true } renewed := by
    refine ⟨rfl, ?_⟩
    change after.store.debouncer.Resembles _ (state.store.debouncer.renewed after.store.agenda.now)
    rw [left]
    let freed : Debouncer τ (Work (Op τ) (Reply τ)) := { state.store.debouncer with timer := none }
    have free : freed.timer = none := rfl
    exact Debouncer.resembles_renewed free kind _
  have mirrors : renewed.Mirrors (.new (state.store.debouncer.renewed now) now) :=
    mirrors_renewed (free ▸ coherent.holds)
  -- The first step is to clear the debouncer, and the second one to clear the agenda.
  let cleared : State τ := { after with store := renewed, script := later }
  have first : Machine.Lockstep (fun told => told) (Store.Resembles { stamp := true, call := true })
      { after with script := later } cleared := ⟨resembles, rfl, rfl, rfl, rfl⟩
  have second : Machine.Lockstep Event.unplaced Store.Mirrors cleared
      { fresh with script := later } := ⟨mirrors, rfl, rfl, rfl, rfl⟩
  have shown : ∀ op depth, .began op depth ∈ (machine.run fuel { after with script := later }).trace →
      false = true → Op.showsPolicy op = false := by simp
  exact ((run_resembles fuel shown first).as_seen Event.unplaced).trans
    (fun _ _ _ resembles mirrors => mirrors.looksLike resembles) (run_mirrors fuel second)

/-- A timer has fired at five, where the work has called the debouncer again and failed. The reset
drops the timer that was set for ten and leaves the beginning of its period, which a new debouncer
does not have. The next call sets another timer for ten all the same. -/
theorem reset_renews_of_failing_again :
    let first := State.initial fiveSeconds .null (0 : Rat)
      (.before [.request (.call (some (failingAgain [0]))), .advance (.ok 6), .request .reset]
        (.done (.ok .nothing)))
    let state := machine.run 4 first
    let after := machine.run 1 state
    let later : Script (Op Rat) (Reply Rat) :=
      .before [.request (.call none), .advance (.ok 7)] (.done (.ok .nothing))
    let now := after.store.agenda.now
    let fresh : State Rat := { after with store := .new (state.store.debouncer.renewed now) now }
    let last := machine.run 6 { after with script := later }
    machine.Reaches first state ∧ machine.step? state = some after ∧ state.stack.length = 0 ∧
      after.store.debouncer.leadingTimestamp = some 5 ∧
      fresh.store.debouncer.leadingTimestamp = none ∧ starts last.trace = [5, 10] ∧
      Machine.Lockstep Event.unplaced Store.LooksLike last
        (machine.run 6 { fresh with script := later }) := by
  intro first state after later now fresh last
  have reaches := Machine.reaches_run machine 4 first
  have resets : asksReset state.script = true := by decide +kernel
  rcases eq_of_asksReset resets with ⟨next, resets⟩
  have stepped : machine.step? state = some after := by
    have one : after = machine.run 1 state := rfl
    simp only [one, Machine.run, Machine.step?, resets]
  exact ⟨reaches, stepped, by decide +kernel, by decide +kernel, by decide +kernel,
    by decide +kernel,
    reset_renews _ _ _ _ later next state after 6 (.inr rfl) reaches resets stepped⟩

end DebouncerSession

end Debounce
