import Debounce.Proofs.Pending
import Debounce.Proofs.Times
import Debounce.Proofs.Translation

/-!
# Sessions on a shifted clock

Nothing that a debouncer or an agenda decides depends on what the clock shows, but only on how far
its readings are apart. Where sums and differences are exact, a session whose clock starts later by
some shift therefore does what it would have done, with every instant later by the shift.
-/

namespace Debounce

/-- Instants and durations are exact: a shift changes neither the order of instants nor the gaps
between them, and makes no difference to how far a duration leads. -/
class Instant.Exact (τ : Type) [Instant τ] : Prop where
  shift_add (a d shift : τ) : a + shift + d = a + d + shift
  shift_sub (a d shift : τ) : a + shift - d = a - d + shift
  gap_shift (a b shift : τ) : a + shift - (b + shift) = a - b
  shift_le {a b shift : τ} : a + shift ≤ b + shift ↔ a ≤ b
  shift_lt {a b shift : τ} : a + shift < b + shift ↔ a < b

namespace Instant

instance : Exact Rat where
  shift_add a d shift := by grind
  shift_sub a d shift := by grind
  gap_shift a b shift := by grind
  shift_le := by grind
  shift_lt := by grind

variable {τ : Type} [Instant τ] [Exact τ] (a b shift : τ)

theorem later_shift : later (a + shift) (b + shift) = later a b + shift := by
  simp only [later, Exact.shift_lt]
  split <;> rfl

theorem sooner_shift : sooner (a + shift) (b + shift) = sooner a b + shift := by
  simp only [sooner, Exact.shift_lt]
  split <;> rfl

theorem capped_shift (cap? : Option τ) :
    capped (cap?.map (· + shift)) (a + shift) = capped cap? a + shift := by
  cases cap? with
  | none => rfl
  | some cap => exact sooner_shift a cap shift

end Instant

variable {τ κ ω : Type} [Instant τ]

/-! ## Agendas -/

/-- The timer set for the shifted time. -/
def Timer.shifted (shift : τ) (timer : Timer τ κ) : Timer τ κ :=
  { timer with executionTime := timer.executionTime + shift }

/-- The agenda with its clock and its timers shifted. -/
def Agenda.shifted (shift : τ) (agenda : Agenda τ κ) : Agenda τ κ where
  now := agenda.now + shift
  timers := agenda.timers.map (Timer.shifted shift)

section Timers

variable (shift : τ) (timer : Timer τ κ)

@[simp] theorem Timer.active_shifted : (timer.shifted shift).active = timer.active := rfl

theorem Timer.cancel_shifted :
    (timer.shifted shift).cancel = (timer.cancel.1, timer.cancel.2.shifted shift) := by
  rw [cancel, cancel, active_shifted]
  split <;> rfl

theorem Timer.claim_shifted :
    (timer.shifted shift).claim = (timer.claim.1, timer.claim.2.shifted shift) := by
  rw [claim, claim, active_shifted]
  split <;> rfl

theorem Timer.reschedule_shifted (time : τ) :
    (timer.shifted shift).reschedule (time + shift) = (timer.reschedule time).shifted shift := by
  rw [reschedule, reschedule, active_shifted]
  split <;> rfl

theorem Timer.due_shifted [Instant.Exact τ] (deadline : τ) :
    (timer.shifted shift).due (deadline + shift) = timer.due deadline := by
  have time : (timer.shifted shift).executionTime = timer.executionTime + shift := rfl
  rw [due, due, active_shifted, time]
  simp only [Instant.Exact.shift_le]

end Timers

namespace Agenda

variable (shift : τ) (agenda : Agenda τ κ) (id : TimerId) (time delay deadline : τ)

theorem get?_shifted :
    (agenda.shifted shift).get? id = (agenda.get? id).map (Timer.shifted shift) := by
  rw [get?, get?, shifted, List.getElem?_map]

/-- A change of a timer and a shift can be made in either order. -/
theorem update_shifted {change change' : Timer τ κ → Bool × Timer τ κ}
    (commutes : ∀ timer, change' (timer.shifted shift) =
      ((change timer).1, (change timer).2.shifted shift)) :
    (agenda.shifted shift).update id change' =
      ((agenda.update id change).1, (agenda.update id change).2.shifted shift) := by
  have found := agenda.get?_shifted shift id
  rw [get?, get?] at found
  rw [update, update, found]
  cases agenda.timers[id]? with
  | none => rfl
  | some timer => simp [commutes, shifted, List.map_set]

theorem cancel_shifted :
    (agenda.shifted shift).cancel id =
      ((agenda.cancel id).1, (agenda.cancel id).2.shifted shift) :=
  agenda.update_shifted shift id (Timer.cancel_shifted shift)

theorem reschedule_shifted :
    (agenda.shifted shift).reschedule id (time + shift) =
      (agenda.reschedule id time).shifted shift := by
  rw [reschedule, reschedule, agenda.update_shifted shift id]
  intro timer
  rw [Timer.reschedule_shifted, Timer.active_shifted]

theorem status?_shifted :
    Scheduler.status? (agenda.shifted shift) id =
      (Scheduler.status? agenda id).map fun status =>
        ⟨status.active, status.executionTime + shift⟩ := by
  change ((agenda.shifted shift).get? id).map _ = ((agenda.get? id).map _).map _
  rw [get?_shifted, Option.map_map, Option.map_map]
  rfl

variable [Instant.Exact τ]

theorem schedule_shifted (callback : κ) :
    (agenda.shifted shift).schedule delay callback =
      ((agenda.schedule delay callback).1,
        (agenda.schedule delay callback).2.shifted shift) := by
  simp [schedule, add, shifted, Timer.shifted, Instant.Exact.shift_add]

theorem earliest?_shifted (entries : List (TimerId × Timer τ κ)) :
    earliest? (entries.map fun entry => (entry.1, entry.2.shifted shift)) =
      (earliest? entries).map fun entry => (entry.1, entry.2.shifted shift) := by
  induction entries with
  | nil => rfl
  | cons entry rest ih =>
      rw [List.map_cons, earliest?, earliest?, ih]
      cases earliest? rest with
      | none => rfl
      | some other =>
          simp only [Option.map_some, Timer.shifted, Instant.Exact.shift_lt]
          split <;> rfl

theorem next?_due_shifted :
    (agenda.shifted shift).next? (Timer.due (deadline + shift)) =
      (agenda.next? (Timer.due deadline)).map fun entry => (entry.1, entry.2.shifted shift) := by
  have entries : (agenda.shifted shift).entries =
      agenda.entries.map fun entry => (entry.1, entry.2.shifted shift) := by
    simp [Agenda.entries, shifted, List.zipIdx_map, Function.comp_def]
  rw [next?, next?, entries, List.filter_map, earliest?_shifted]
  simp only [Function.comp_def, Timer.due_shifted]

theorem fireNext?_shifted :
    (agenda.shifted shift).fireNext? (deadline + shift) =
      (agenda.fireNext? deadline).map fun (id, timer, agenda) =>
        (id, timer.shifted shift, agenda.shifted shift) := by
  rw [fireNext?, fireNext?, next?_due_shifted]
  cases agenda.next? (Timer.due deadline) with
  | none => rfl
  | some entry =>
      let moved := { agenda with now := Instant.later agenda.now entry.2.executionTime }
      have clock : { agenda.shifted shift with
          now := Instant.later (agenda.now + shift) (entry.2.executionTime + shift) } =
          moved.shifted shift := by
        rw [Instant.later_shift]
        rfl
      have claimed : (moved.shifted shift).claim entry.1 = _ :=
        moved.update_shifted shift entry.1 (Timer.claim_shifted shift)
      rw [← clock] at claimed
      exact congrArg (fun claimed => some (entry.1, entry.2.shifted shift, claimed.2)) claimed

theorem arrive_shifted :
    (agenda.shifted shift).arrive (deadline + shift) = (agenda.arrive deadline).shifted shift := by
  simp only [arrive, shifted, Instant.later_shift]

end Agenda

/-! ## Debouncers -/

/-- The debouncer with its instants shifted. -/
def Debouncer.shifted (shift : τ) (debouncer : Debouncer τ ω) : Debouncer τ ω :=
  { debouncer with
    leadingTimestamp := debouncer.leadingTimestamp.map (· + shift)
    lastCall := debouncer.lastCall.map (· + shift) }

/-- What remains of an operation, with the instant that it records shifted. -/
def Tail.shifted (shift : τ) : Tail τ → Tail τ
  | .record call => .record (call + shift)
  | .passOn => .passOn
  | .flushed => .flushed

/-- The demand for the work, with what remains shifted; what is replied stays as it is. -/
def Demand.shifted (shift : τ) : Demand τ → Demand τ
  | .reply answer => .reply answer
  | .execute tail => .execute (tail.shifted shift)

/-- The event at the shifted time. -/
def Event.shifted (shift : τ) : Event τ → Event τ
  | .ran work name now context => .ran work name (now + shift) context
  | .timerMoved debouncer time => .timerMoved debouncer (time + shift)
  | .timerFired timer time => .timerFired timer (time + shift)
  | .handOverFailed timer time fault => .handOverFailed timer (time + shift) fault
  | other => other

/-- The turn with everything in it shifted. -/
def Turn.shifted (shift : τ) (turn : Turn τ (Agenda τ κ) ω) : Turn τ (Agenda τ κ) ω where
  debouncer := turn.debouncer.shifted shift
  scheduler := turn.scheduler.shifted shift
  events := turn.events.map (Event.shifted shift)
  demand := turn.demand.shifted shift

namespace Debouncer

section Fields

variable (shift : τ) (debouncer : Debouncer τ ω)

@[simp] theorem settings_shifted : (debouncer.shifted shift).settings = debouncer.settings := rfl

@[simp] theorem name_shifted : (debouncer.shifted shift).name = debouncer.name := rfl

@[simp] theorem work_shifted : (debouncer.shifted shift).work = debouncer.work := rfl

@[simp] theorem timer_shifted : (debouncer.shifted shift).timer = debouncer.timer := rfl

@[simp] theorem leadingTimestamp_shifted :
    (debouncer.shifted shift).leadingTimestamp = debouncer.leadingTimestamp.map (· + shift) := rfl

@[simp] theorem lastCall_shifted :
    (debouncer.shifted shift).lastCall = debouncer.lastCall.map (· + shift) := rfl

@[simp] theorem begin_shifted : (debouncer.shifted shift).begin = debouncer.begin := rfl

@[simp] theorem limit?_shifted : (debouncer.shifted shift).limit? = debouncer.limit? := rfl

@[simp] theorem idleTime?_shifted : (debouncer.shifted shift).idleTime? = debouncer.idleTime? := rfl

end Fields

/-! ### Decisions -/

section Decisions

variable [Instant.Exact τ] (shift : τ) (debouncer : Debouncer τ ω) (now stamp : τ)

theorem tooSoon_shifted :
    (debouncer.shifted shift).tooSoon (now + shift) = debouncer.tooSoon now := by
  rw [tooSoon, tooSoon, leadingTimestamp_shifted, begin_shifted]
  cases debouncer.leadingTimestamp with
  | none => rfl
  | some stamp =>
      apply decide_eq_decide.mpr
      rw [Instant.Exact.shift_add, Instant.Exact.shift_lt]

theorem maxIntervalReached_shifted :
    (debouncer.shifted shift).maxIntervalReached (now + shift) =
      debouncer.maxIntervalReached now := by
  rw [maxIntervalReached, maxIntervalReached, leadingTimestamp_shifted, limit?_shifted]
  cases debouncer.limit? with
  | none => rfl
  | some last =>
      cases debouncer.leadingTimestamp with
      | none => rfl
      | some stamp =>
          apply decide_eq_decide.mpr
          rw [Instant.Exact.shift_add, Instant.Exact.shift_le]

theorem idle_shifted : (debouncer.shifted shift).idle (now + shift) = debouncer.idle now := by
  rw [idle, idle, lastCall_shifted, idleTime?_shifted]
  cases debouncer.idleTime? with
  | none => rfl
  | some span =>
      cases debouncer.lastCall with
      | none => rfl
      | some call =>
          apply decide_eq_decide.mpr
          rw [Instant.Exact.shift_add, Instant.Exact.shift_le]

theorem gapIsIdleTime_shifted (span : τ) :
    (debouncer.shifted shift).gapIsIdleTime (now + shift) span =
      debouncer.gapIsIdleTime now span := by
  rw [gapIsIdleTime, gapIsIdleTime, lastCall_shifted]
  cases debouncer.lastCall with
  | none => rfl
  | some call => simp only [Option.map_some, Instant.Exact.gap_shift]

theorem firstDelay_shifted :
    (debouncer.shifted shift).firstDelay (now + shift) = debouncer.firstDelay now := by
  rw [firstDelay, firstDelay, lastCall_shifted, idleTime?_shifted, begin_shifted]
  cases debouncer.idleTime? with
  | none => rfl
  | some span =>
      cases debouncer.lastCall with
      | none => rfl
      | some call => simp only [Option.map_some, Instant.Exact.gap_shift]

theorem wanted_shifted :
    (debouncer.shifted shift).wanted (stamp + shift) (now + shift) =
      debouncer.wanted stamp now + shift := by
  rw [wanted, wanted, idleTime?_shifted, begin_shifted, Instant.Exact.shift_add stamp]
  cases debouncer.idleTime? with
  | none => rfl
  | some span =>
      dsimp only
      rw [gapIsIdleTime_shifted, Instant.Exact.shift_add now, Instant.later_shift]
      split <;> rfl

theorem extension_shifted :
    (debouncer.shifted shift).extension (stamp + shift) (now + shift) =
      debouncer.extension stamp now + shift := by
  have caps (debouncer : Debouncer τ ω) (stamp now : τ) : debouncer.extension stamp now =
      Instant.capped (debouncer.limit?.map (stamp + ·)) (debouncer.wanted stamp now) := by
    rw [extension]
    cases debouncer.limit? <;> rfl
  have limits : (debouncer.limit?.map (stamp + shift + ·)) =
      (debouncer.limit?.map (stamp + ·)).map (· + shift) := by
    rw [Option.map_map]
    congr 1
    funext last
    exact Instant.Exact.shift_add stamp last shift
  rw [caps, caps, limit?_shifted, wanted_shifted, limits, Instant.capped_shift]

end Decisions

/-! ### Turns -/

section Turns

variable (shift : τ) (debouncer : Debouncer τ ω) (now stamp : τ) (agenda : Agenda τ κ)
variable (callback : κ) (id : TimerId) (time : τ)

theorem finish_shifted (tail : Tail τ) (reply : Reply τ) :
    (debouncer.shifted shift).finish (tail.shifted shift) reply =
      ((debouncer.finish tail reply).1.shifted shift, (debouncer.finish tail reply).2) := by
  cases tail <;> cases reply <;> rfl

theorem fire_shifted :
    (debouncer.shifted shift).fire (agenda.shifted shift) id =
      (debouncer.fire agenda id).shifted shift := by
  rw [fire, fire, timer_shifted]
  split <;> rfl

theorem callNow_shifted :
    (debouncer.shifted shift).callNow (agenda.shifted shift) =
      (debouncer.callNow agenda).shifted shift := by
  rw [callNow, callNow, work_shifted]
  cases debouncer.work <;> rfl

theorem flush_shifted :
    (debouncer.shifted shift).flush (agenda.shifted shift) =
      (debouncer.flush agenda).shifted shift := by
  have cancelled (id : TimerId) : Scheduler.cancel (agenda.shifted shift) id = _ :=
    agenda.cancel_shifted shift id
  rw [flush, flush, timer_shifted]
  cases debouncer.timer with
  | none => rfl
  | some id =>
      dsimp only
      rw [cancelled, Agenda.scheduler_cancel]
      rcases agenda.cancel id with ⟨cancelled, rest⟩
      cases cancelled <;> rfl

variable [Instant.Exact τ]

theorem rewound_shifted :
    (debouncer.shifted shift).rewound (now + shift) = (debouncer.rewound now).shifted shift := by
  rw [rewound, rewound, settings_shifted, begin_shifted, idleTime?_shifted]
  split
  · simp only [shifted, Option.map_some, Instant.Exact.shift_sub]
  · rfl

theorem new_shifted (settings : Settings) (name : Value) :
    (new settings name (now + shift) : Debouncer τ ω) = (new settings name now).shifted shift :=
  rewound_shifted shift { settings := settings, name := name } now

theorem reset_shifted :
    (debouncer.shifted shift).reset (agenda.shifted shift) =
      (debouncer.reset agenda).shifted shift := by
  have freed : ({ debouncer.shifted shift with timer := none } : Debouncer τ ω) =
      Debouncer.shifted shift { debouncer with timer := none } := rfl
  rw [reset, reset, timer_shifted, freed]
  cases debouncer.timer with
  | none =>
      dsimp only
      rw [show Scheduler.now (agenda.shifted shift) = agenda.now + shift from rfl, rewound_shifted]
      rfl
  | some id =>
      have cancelled : Scheduler.cancel (agenda.shifted shift) id = _ :=
        agenda.cancel_shifted shift id
      dsimp only
      rw [cancelled, Agenda.scheduler_cancel]
      rcases agenda.cancel id with ⟨cancelled, rest⟩
      dsimp only
      rw [show Scheduler.now (rest.shifted shift) = rest.now + shift from rfl, rewound_shifted]
      cases cancelled <;> rfl

theorem leadingEdge_shifted :
    (debouncer.shifted shift).leadingEdge (agenda.shifted shift) (now + shift) =
      (debouncer.leadingEdge agenda now).shifted shift := by
  rw [leadingEdge, leadingEdge, tooSoon_shifted, idle_shifted, maxIntervalReached_shifted]
  split
  · rfl
  · split <;> rfl

theorem startTimer_shifted :
    (debouncer.shifted shift).startTimer (agenda.shifted shift) callback (now + shift) =
      (debouncer.startTimer agenda callback now).shifted shift := by
  have set : Scheduler.schedule (agenda.shifted shift) (debouncer.firstDelay now) callback = _ :=
    agenda.schedule_shifted shift (debouncer.firstDelay now) callback
  rw [startTimer, startTimer, firstDelay_shifted, set]
  rfl

theorem extendTimer_shifted :
    (debouncer.shifted shift).extendTimer (agenda.shifted shift) id (time + shift) (stamp + shift)
        (now + shift) =
      (debouncer.extendTimer agenda id time stamp now).shifted shift := by
  have cancelled : Scheduler.cancel (agenda.shifted shift) id = _ := agenda.cancel_shifted shift id
  have moved (time : τ) : Scheduler.reschedule (agenda.shifted shift) id (time + shift) = _ :=
    agenda.reschedule_shifted shift id time
  simp only [extendTimer, extension_shifted, Instant.Exact.shift_le, Instant.Exact.shift_lt,
    cancelled, moved, Agenda.scheduler_cancel]
  split
  · rcases agenda.cancel id with ⟨cancelled, rest⟩
    cases cancelled <;> rfl
  · split <;> rfl

theorem trailingEdge_shifted :
    (debouncer.shifted shift).trailingEdge (agenda.shifted shift) callback (now + shift) =
      (debouncer.trailingEdge agenda callback now).shifted shift := by
  have starts := startTimer_shifted shift debouncer now agenda callback
  have seen : (debouncer.shifted shift).timerStatus? (agenda.shifted shift) =
      (debouncer.timerStatus? agenda).map fun status =>
        ⟨status.active, status.executionTime + shift⟩ := by
    rw [timerStatus?, timerStatus?, timer_shifted, Option.map_bind]
    congr 1
    funext id
    exact agenda.status?_shifted shift id
  rw [trailingEdge, trailingEdge, timer_shifted, seen, leadingTimestamp_shifted]
  cases debouncer.timer with
  | none => exact starts
  | some id =>
      rcases debouncer.timerStatus? agenda with _ | ⟨active, time⟩
      · exact starts
      · cases active with
        | false => exact starts
        | true =>
            cases debouncer.leadingTimestamp with
            | none => exact starts
            | some stamp => exact extendTimer_shifted shift debouncer now stamp agenda id time

theorem call_shifted (work? : Option ω) :
    (debouncer.shifted shift).call (agenda.shifted shift) callback work? =
      (debouncer.call agenda callback work?).shifted shift := by
  rw [call, call, work_shifted]
  cases work?.or debouncer.work with
  | none => rfl
  | some work =>
      dsimp only
      rw [settings_shifted]
      split
      · rfl
      · split
        · exact leadingEdge_shifted shift { debouncer with work := some work } _ agenda
        · exact trailingEdge_shifted shift { debouncer with work := some work } _ agenda callback

/-- Serving a request goes the same way at every time. -/
theorem serve_shifted (request : Request ω) :
    (debouncer.shifted shift).serve (agenda.shifted shift) callback request =
      (debouncer.serve agenda callback request).shifted shift := by
  cases request with
  | call work? => exact call_shifted shift debouncer agenda callback work?
  | callNow => exact callNow_shifted shift debouncer agenda
  | reset => exact reset_shifted shift debouncer agenda
  | flush => exact flush_shifted shift debouncer agenda

end Turns

end Debouncer

/-! ## Sessions -/

namespace DebouncerSession

/-- The operation reads the clock. -/
def Op.readsClock : Op τ → Bool
  | .now => true
  | .request _ | .advance _ | .policy | .text => false

/-- Whether a moment is the beginning of an operation that reads the clock. -/
def Moment.readsClock : Moment (Op τ) (Reply τ) (Event τ) → Bool
  | .began op _ => op.readsClock
  | .event _ | .ended _ _ _ => false

/-- The store with its clock, its timers and its debouncer shifted. -/
def Store.shifted (shift : τ) (store : Store τ) : Store τ where
  agenda := store.agenda.shifted shift
  debouncer := store.debouncer.shifted shift

/-- Where the operation goes on, with the instants that it has kept shifted. -/
def Frame.shifted (shift : τ) : Frame τ → Frame τ
  | .serving tail => .serving (tail.shifted shift)
  | .advancing deadline fired => .advancing (deadline + shift) fired

/-- The translation of a session by a shift in time. -/
def shifting (shift : τ) : Machine.Translation (Store τ) (Frame τ) (Event τ) where
  store := Store.shifted shift
  frame := Frame.shifted shift
  event := Event.shifted shift

variable (shift : τ) (store : Store τ)

theorem take_shifted (turn : Turn τ (Agenda τ Unit) (Work (Op τ) (Reply τ)))
    {frame frame' : Tail τ → Frame τ}
    (shifts : ∀ tail, frame' (tail.shifted shift) = (frame tail).shifted shift) :
    take (turn.shifted shift) frame' = (take turn frame).translated (shifting shift) := by
  rcases turn with ⟨debouncer, agenda, events, demand⟩
  cases demand with
  | reply reply => rfl
  | execute tail =>
      have held : (debouncer.shifted shift).work = debouncer.work := rfl
      rw [take, take, Turn.effect, Turn.effect]
      simp only [Turn.shifted, Demand.shifted, held]
      cases debouncer.work with
      | none => rfl
      | some work =>
          simp only [Effect.translated, Next.translated, shifts, List.map_append]
          rfl

variable [Instant.Exact τ]

theorem sweep_shifted (deadline : τ) (fired : Nat) :
    sweep (store.shifted shift) (deadline + shift) fired =
      (sweep store deadline fired).translated (shifting shift) := by
  have next : (store.shifted shift).agenda.fireNext? (deadline + shift) = _ :=
    store.agenda.fireNext?_shifted shift deadline
  rw [sweep, sweep, next]
  cases store.agenda.fireNext? deadline with
  | none =>
      have arrived : (store.shifted shift).agenda.arrive (deadline + shift) = _ :=
        store.agenda.arrive_shifted shift deadline
      dsimp only [Option.map_none]
      rw [arrived]
      rfl
  | some found =>
      rcases found with ⟨id, timer, agenda⟩
      have fires : (store.shifted shift).debouncer.fire (agenda.shifted shift) id = _ :=
        store.debouncer.fire_shifted shift agenda id
      dsimp only [Option.map_some]
      rw [fires]
      exact take_shifted shift (store.firing agenda id timer) fun _ => rfl

/-- An operation that does not read the clock begins in the same way at every time. -/
theorem start_shifted (op : Op τ) (blind : op.readsClock = false) :
    start op (store.shifted shift) = (start op store).translated (shifting shift) := by
  cases op with
  | request request =>
      have served : (store.shifted shift).debouncer.serve (store.shifted shift).agenda () request =
          _ := store.debouncer.serve_shifted shift store.agenda () request
      rw [start, start, served]
      exact take_shifted shift _ fun _ => rfl
  | advance delay =>
      cases delay with
      | error fault => rfl
      | ok delay =>
          have deadline : (store.shifted shift).agenda.now + delay =
              store.agenda.now + delay + shift := Instant.Exact.shift_add _ _ _
          rw [start, start, deadline]
          exact sweep_shifted shift store _ 0
  | now => cases blind
  | policy | text => rfl

theorem resume_shifted (frame : Frame τ) (reply : Reply τ) :
    resume (frame.shifted shift) reply (store.shifted shift) =
      (resume frame reply store).translated (shifting shift) := by
  cases frame with
  | serving tail =>
      have finished : (store.shifted shift).debouncer.finish (tail.shifted shift) reply = _ :=
        store.debouncer.finish_shifted shift tail reply
      rw [Frame.shifted, resume, resume, finished]
      rfl
  | advancing deadline fired =>
      cases reply with
      | error fault => rfl
      | ok value => exact sweep_shifted shift store deadline fired

omit store in
/-- Only differences of time matter. A session whose clock starts later by a shift, whatever sign it
has, gets after every step to the state that the session would have got to, shifted: the same
operations have begun and have ended with the same replies, the same works have run in the same
order and are suspended in the same way, and every clock reading, every time of a timer and every
instant that the debouncer or a suspended operation has kept is later by the shift. All that is
asked is that no operation reads the clock itself. -/
theorem only_time_differences_matter (settings : Settings) (name : Value) (clock : τ)
    (script : Script (Op τ) (Reply τ)) (fuel : Nat)
    (blind : ∀ moment ∈ (machine.run fuel (State.initial settings name clock script)).trace,
      Moment.readsClock moment = false) :
    machine.run fuel (State.initial settings name (clock + shift) script) =
      (machine.run fuel (State.initial settings name clock script)).translated
        (shifting shift) := by
  have initial : State.initial settings name (clock + shift) script =
      (State.initial settings name clock script).translated (shifting shift) := by
    rw [State.initial, Debouncer.new_shifted]
    rfl
  rw [initial]
  exact Machine.run_translated (fun op => op.readsClock = false)
    (fun op store blind => start_shifted shift store op blind)
    (fun frame reply store => resume_shifted shift store frame reply) fuel
    (fun op depth began => blind (.began op depth) began)

/-- The work of a timer calls the debouncer again and fails, which ends the advance; the next
advance fires the timer of that call, whose work does the same, and the timer that is left is
cancelled. A hundred seconds later all this happens in the same way. -/
theorem only_time_differences_matter_of_failing_again :
    let calls : Script (Op Rat) (Reply Rat) :=
      .before [.request (.call (some (failingAgain [0]))), .advance (.ok (1 / 2)),
        .request (.call none), .advance (.ok 20), .advance (.ok 20), .request .reset]
        (.done (.ok .nothing))
    let state := machine.run 40 (State.initial (oneToTwo false) .null 0 calls)
    let later := machine.run 40 (State.initial (oneToTwo false) .null (0 + 100) calls)
    (∀ moment ∈ state.trace, Moment.readsClock moment = false) ∧ state.store.agenda.now = 12 ∧
      later = state.translated (shifting 100) ∧ later.store.agenda.now = 112 ∧
      later.store.debouncer.leadingTimestamp = some 112 := by
  intro calls state later
  have blind : ∀ moment ∈ state.trace, Moment.readsClock moment = false := by decide +kernel
  have same : later = state.translated (shifting 100) :=
    only_time_differences_matter 100 (oneToTwo false) .null 0 calls 40 blind
  refine ⟨blind, by decide +kernel, same, ?_, ?_⟩
  · rw [same]
    decide +kernel
  · rw [same]
    decide +kernel

end DebouncerSession

end Debounce
