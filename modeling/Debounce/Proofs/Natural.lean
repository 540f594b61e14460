import Debounce.Proofs.Agenda
import Debounce.Proofs.Turn

/-!
# Other works and other callbacks

A debouncer hands its work on and never looks into it, and an agenda does the same with callbacks.
What they do is therefore the same for works and callbacks of any kind: replacing them and serving a
request can be done in either order.
-/

namespace Debounce

variable {τ κ κ' ω ω' : Type}

/-! ## Agendas -/

/-- The timer with another callback. -/
def Timer.map (replace : κ → κ') (timer : Timer τ κ) : Timer τ κ' where
  phase := timer.phase
  executionTime := timer.executionTime
  callback := replace timer.callback

namespace Timer

variable (replace : κ → κ') (timer : Timer τ κ)

@[simp] theorem active_map : (timer.map replace).active = timer.active := rfl

theorem cancel_map :
    (timer.map replace).cancel = (timer.cancel.1, timer.cancel.2.map replace) := by
  rw [cancel, cancel, active_map]
  split <;> rfl

theorem claim_map : (timer.map replace).claim = (timer.claim.1, timer.claim.2.map replace) := by
  rw [claim, claim, active_map]
  split <;> rfl

theorem reschedule_map (time : τ) :
    (timer.map replace).reschedule time = (timer.reschedule time).map replace := by
  rw [reschedule, reschedule, active_map]
  split <;> rfl

theorem check_map [Instant τ] (clock : τ) :
    (timer.map replace).check clock =
      ((timer.check clock).1, (timer.check clock).2.map replace) := by
  have expired : (timer.map replace).expired clock = timer.expired clock := rfl
  rw [check, check, expired]
  split
  · exact claim_map replace timer
  · rfl

end Timer

namespace Agenda

/-- The agenda with other callbacks. -/
def map (replace : κ → κ') (agenda : Agenda τ κ) : Agenda τ κ' where
  now := agenda.now
  timers := agenda.timers.map (Timer.map replace)

variable (replace : κ → κ') (agenda : Agenda τ κ) (id : TimerId) (time : τ)

/-- Replacing nothing changes nothing. -/
theorem map_id : agenda.map (fun callback => callback) = agenda := by
  have same : (Timer.map fun callback => callback : Timer τ κ → Timer τ κ) = fun timer => timer := rfl
  rw [map, same, List.map_id']

@[simp] theorem now_map : (agenda.map replace).now = agenda.now := rfl

theorem get?_map : (agenda.map replace).get? id = (agenda.get? id).map (Timer.map replace) := by
  rw [get?, get?, map, List.getElem?_map]

theorem update_map {change : Timer τ κ → Bool × Timer τ κ}
    {change' : Timer τ κ' → Bool × Timer τ κ'}
    (natural : ∀ timer, change' (timer.map replace) =
      ((change timer).1, (change timer).2.map replace)) :
    (agenda.map replace).update id change' =
      ((agenda.update id change).1, (agenda.update id change).2.map replace) := by
  have found := agenda.get?_map replace id
  rw [get?, get?] at found
  rw [update, update, found]
  cases agenda.timers[id]? with
  | none => rfl
  | some timer => simp [natural, map, List.map_set]

theorem cancel_map :
    (agenda.map replace).cancel id =
      ((agenda.cancel id).1, (agenda.cancel id).2.map replace) :=
  agenda.update_map replace id (Timer.cancel_map replace)

theorem reschedule_map :
    (agenda.map replace).reschedule id time = (agenda.reschedule id time).map replace := by
  rw [reschedule, reschedule, agenda.update_map replace id]
  intro timer
  rw [Timer.reschedule_map, Timer.active_map]

theorem add_map (callback : κ) :
    (agenda.map replace).add time (replace callback) =
      ((agenda.add time callback).1, (agenda.add time callback).2.map replace) := by
  simp [add, map, Timer.map]

theorem entries_map :
    (agenda.map replace).entries =
      agenda.entries.map fun entry => (entry.1, entry.2.map replace) := by
  simp [entries, map, List.zipIdx_map, Function.comp_def]

variable [Instant τ]

theorem earliest?_map (entries : List (TimerId × Timer τ κ)) :
    earliest? (entries.map fun entry => (entry.1, entry.2.map replace)) =
      (earliest? entries).map fun entry => (entry.1, entry.2.map replace) := by
  induction entries with
  | nil => rfl
  | cons entry rest ih =>
      rw [List.map_cons, earliest?, earliest?, ih]
      cases earliest? rest with
      | none => rfl
      | some other =>
          change (if other.2.executionTime < entry.2.executionTime then _ else _) = _
          dsimp only
          split <;> rfl

theorem next?_map {test : Timer τ κ → Bool} {test' : Timer τ κ' → Bool}
    (natural : ∀ timer, test' (timer.map replace) = test timer) :
    (agenda.map replace).next? test' =
      (agenda.next? test).map fun entry => (entry.1, entry.2.map replace) := by
  rw [next?, next?, entries_map, List.filter_map, earliest?_map]
  simp [Function.comp_def, natural]

theorem expireNext?_map :
    (agenda.map replace).expireNext? =
      agenda.expireNext?.map fun (id, timer, agenda) =>
        (id, timer.map replace, agenda.map replace) := by
  have next : (agenda.map replace).next? (Timer.expired (agenda.map replace).now) =
      (agenda.next? (Timer.expired agenda.now)).map fun entry =>
        (entry.1, entry.2.map replace) :=
    agenda.next?_map replace fun _ => rfl
  rw [expireNext?, expireNext?, next]
  cases agenda.next? (Timer.expired agenda.now) with
  | none => rfl
  | some entry =>
      have checked := agenda.update_map replace entry.1 fun timer =>
        Timer.check_map replace timer agenda.now
      simp [checked]

theorem fireNext?_map (deadline : τ) :
    (agenda.map replace).fireNext? deadline =
      (agenda.fireNext? deadline).map fun (id, timer, agenda) =>
        (id, timer.map replace, agenda.map replace) := by
  have next : (agenda.map replace).next? (Timer.due deadline) =
      (agenda.next? (Timer.due deadline)).map fun entry => (entry.1, entry.2.map replace) :=
    agenda.next?_map replace fun _ => rfl
  rw [fireNext?, fireNext?, next]
  cases agenda.next? (Timer.due deadline) with
  | none => rfl
  | some entry =>
      let moved := { agenda with now := Instant.later agenda.now entry.2.executionTime }
      have claimed : (moved.map replace).claim entry.1 = _ :=
        moved.update_map replace entry.1 (Timer.claim_map replace)
      exact congrArg (fun claimed => some (entry.1, entry.2.map replace, claimed.2)) claimed

theorem status?_map :
    Scheduler.status? (agenda.map replace) id = Scheduler.status? agenda id := by
  change ((agenda.map replace).get? id).map _ = (agenda.get? id).map _
  rw [get?_map, Option.map_map]
  rfl

theorem schedule_map (delay : τ) (callback : κ) :
    Scheduler.schedule (agenda.map replace) delay (replace callback) =
      ((Scheduler.schedule agenda delay callback).1,
        (Scheduler.schedule agenda delay callback).2.map replace) :=
  agenda.add_map replace (agenda.now + delay) callback

end Agenda

/-! ## Debouncers -/

/-- The debouncer with another work. -/
def Debouncer.map (convert : ω → ω') (debouncer : Debouncer τ ω) : Debouncer τ ω' where
  settings := debouncer.settings
  name := debouncer.name
  work := debouncer.work.map convert
  timer := debouncer.timer
  leadingTimestamp := debouncer.leadingTimestamp
  lastCall := debouncer.lastCall

/-- The turn with another work and other callbacks. -/
def Turn.map (convert : ω → ω') (replace : κ → κ') (turn : Turn τ (Agenda τ κ) ω) :
    Turn τ (Agenda τ κ') ω' where
  debouncer := turn.debouncer.map convert
  scheduler := turn.scheduler.map replace
  events := turn.events
  demand := turn.demand

theorem Turn.Executes.map {turn : Turn τ (Agenda τ κ) ω} {cause : Cause}
    (executes : turn.Executes cause) (convert : ω → ω') (replace : κ → κ') :
    (turn.map convert replace).Executes cause :=
  ⟨executes.demand, executes.events⟩

theorem Turn.Replies.map {turn : Turn τ (Agenda τ κ) ω} (replies : turn.Replies)
    (convert : ω → ω') (replace : κ → κ') : (turn.map convert replace).Replies :=
  ⟨replies.demand, replies.events⟩

/-- The request with another work. -/
def Request.map (convert : ω → ω') : Request ω → Request ω'
  | .call work? => .call (work?.map convert)
  | .callNow => .callNow
  | .reset => .reset
  | .flush => .flush

namespace Debouncer

variable [Instant τ] (convert : ω → ω') (replace : κ → κ')
variable (debouncer : Debouncer τ ω) (agenda : Agenda τ κ) (callback : κ) (now : τ)

theorem rewound_map : (debouncer.map convert).rewound now = (debouncer.rewound now).map convert := by
  have policy : (debouncer.map convert).settings = debouncer.settings := rfl
  rw [rewound, rewound, policy]
  split <;> rfl

theorem new_map (settings : Settings) (name : Value) :
    (new settings name now : Debouncer τ ω).map convert = new settings name now :=
  (rewound_map convert { settings := settings, name := name } now).symm

theorem timerStatus?_map :
    (debouncer.map convert).timerStatus? (agenda.map replace) = debouncer.timerStatus? agenda := by
  change debouncer.timer.bind _ = debouncer.timer.bind _
  cases debouncer.timer with
  | none => rfl
  | some id => exact agenda.status?_map replace id

theorem pending_map :
    (debouncer.map convert).pending (agenda.map replace) = debouncer.pending agenda := by
  rw [pending, pending, timerStatus?_map]

omit [Instant τ] in
theorem finish_map (tail : Tail τ) (reply : Reply τ) :
    (debouncer.map convert).finish tail reply =
      ((debouncer.finish tail reply).1.map convert, (debouncer.finish tail reply).2) := by
  cases tail <;> cases reply <;> rfl

omit [Instant τ] in
theorem fire_map {σ σ' : Type} (scheduler : σ) (scheduler' : σ') (id : TimerId) :
    ((debouncer.map convert).fire scheduler' id).debouncer =
      (debouncer.fire scheduler id).debouncer.map convert := by
  have held : (debouncer.map convert).timer = debouncer.timer := rfl
  rw [fire, fire, held]
  split <;> rfl

theorem leadingEdge_map :
    (debouncer.map convert).leadingEdge (agenda.map replace) now =
      (debouncer.leadingEdge agenda now).map convert replace := by
  have soon : (debouncer.map convert).tooSoon now = debouncer.tooSoon now := rfl
  have settled : (debouncer.map convert).idle now = debouncer.idle now := rfl
  have capped : (debouncer.map convert).maxIntervalReached now =
      debouncer.maxIntervalReached now := rfl
  rw [leadingEdge, leadingEdge, soon, settled, capped]
  split
  · rfl
  · split <;> rfl

theorem startTimer_map :
    (debouncer.map convert).startTimer (agenda.map replace) (replace callback) now =
      (debouncer.startTimer agenda callback now).map convert replace := by
  have delay : (debouncer.map convert).firstDelay now = debouncer.firstDelay now := rfl
  rw [startTimer, startTimer, delay, agenda.schedule_map replace]
  rfl

theorem extendTimer_map (id : TimerId) (time stamp : τ) :
    (debouncer.map convert).extendTimer (agenda.map replace) id time stamp now =
      (debouncer.extendTimer agenda id time stamp now).map convert replace := by
  have target : (debouncer.map convert).extension stamp now = debouncer.extension stamp now := rfl
  have cancelled : Scheduler.cancel (agenda.map replace) id = _ := agenda.cancel_map replace id
  have moved (time : τ) : Scheduler.reschedule (agenda.map replace) id time = _ :=
    agenda.reschedule_map replace id time
  rw [extendTimer, extendTimer, target]
  split
  · rw [cancelled, Agenda.scheduler_cancel]
    rcases agenda.cancel id with ⟨cancelled, rest⟩
    cases cancelled <;> rfl
  · split
    · rw [moved]
      rfl
    · rfl

theorem trailingEdge_map :
    (debouncer.map convert).trailingEdge (agenda.map replace) (replace callback) now =
      (debouncer.trailingEdge agenda callback now).map convert replace := by
  have timer : (debouncer.map convert).timer = debouncer.timer := rfl
  have stamp : (debouncer.map convert).leadingTimestamp = debouncer.leadingTimestamp := rfl
  rw [trailingEdge, trailingEdge, timer, timerStatus?_map, stamp]
  split
  · exact extendTimer_map convert replace debouncer agenda now _ _ _
  · exact startTimer_map convert replace debouncer agenda callback now

theorem call_map (work? : Option ω) :
    (debouncer.map convert).call (agenda.map replace) (replace callback) (work?.map convert) =
      (debouncer.call agenda callback work?).map convert replace := by
  have held : (work?.map convert).or (debouncer.map convert).work =
      (work?.or debouncer.work).map convert := Option.map_or.symm
  have policy : (debouncer.map convert).settings = debouncer.settings := rfl
  rw [call, call, held]
  cases work?.or debouncer.work with
  | none => rfl
  | some work =>
      dsimp only [Option.map_some]
      rw [policy]
      split
      · rfl
      · split
        · exact leadingEdge_map convert replace { debouncer with work := some work } agenda _
        · exact trailingEdge_map convert replace { debouncer with work := some work } agenda callback _

theorem reset_map :
    (debouncer.map convert).reset (agenda.map replace) =
      (debouncer.reset agenda).map convert replace := by
  have held : (debouncer.map convert).timer = debouncer.timer := rfl
  have freed : ({ debouncer.map convert with timer := none } : Debouncer τ ω') =
      Debouncer.map convert { debouncer with timer := none } := rfl
  rw [reset, reset, held, freed]
  cases debouncer.timer with
  | none =>
      dsimp only
      rw [rewound_map]
      rfl
  | some id =>
      have cancelled : Scheduler.cancel (agenda.map replace) id = _ := agenda.cancel_map replace id
      dsimp only
      rw [cancelled, rewound_map]
      rfl

theorem flush_map :
    (debouncer.map convert).flush (agenda.map replace) =
      (debouncer.flush agenda).map convert replace := by
  have held : (debouncer.map convert).timer = debouncer.timer := rfl
  rw [flush, flush, held]
  cases debouncer.timer with
  | none => rfl
  | some id =>
      have cancelled : Scheduler.cancel (agenda.map replace) id = _ := agenda.cancel_map replace id
      dsimp only
      rw [cancelled, Agenda.scheduler_cancel]
      rcases agenda.cancel id with ⟨cancelled, rest⟩
      cases cancelled <;> rfl

/-- Serving a request is natural: it goes the same way with other works and other callbacks. -/
theorem serve_map (request : Request ω) :
    (debouncer.map convert).serve (agenda.map replace) (replace callback) (request.map convert) =
      (debouncer.serve agenda callback request).map convert replace := by
  cases request with
  | call work? => exact call_map convert replace debouncer agenda callback work?
  | callNow =>
      have held : (debouncer.map convert).work = debouncer.work.map convert := rfl
      change callNow _ _ = (callNow _ _).map convert replace
      rw [callNow, callNow, held]
      cases debouncer.work <;> rfl
  | reset => exact reset_map convert replace debouncer agenda
  | flush => exact flush_map convert replace debouncer agenda

end Debouncer

end Debounce
