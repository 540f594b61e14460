import Debounce.Debouncer.Turn

/-!
# The forms of a turn

Every turn of a debouncer has one of a few forms. They are listed here with the conditions that
lead to them, for any scheduler, so that a fact about debouncers can be proved form by form. What
all forms have in common is derived at the end: the policy stays, the work changes only with a
call that supplies some, and an execution is reported exactly by the turns that ask for one.
-/

namespace Debounce

variable {τ σ κ ω : Type} [Instant τ]

namespace Debouncer

variable (debouncer : Debouncer τ ω) (scheduler : σ)

/-- The forms of a call on the leading edge. -/
inductive LeadingCall (now : τ) : Turn τ σ ω → Prop where
  | ignored :
      debouncer.tooSoon now = true ∨
        debouncer.idle now = false ∧ debouncer.maxIntervalReached now = false →
      LeadingCall now (debouncer.recorded scheduler now [])
  | executed :
      debouncer.tooSoon now = false →
      debouncer.idle now = true ∨ debouncer.maxIntervalReached now = true →
      LeadingCall now
        (execute { debouncer with leadingTimestamp := some now } scheduler .call (.record now))

theorem leadingCall_leadingEdge (now : τ) :
    LeadingCall debouncer scheduler now (debouncer.leadingEdge scheduler now) := by
  rw [leadingEdge]
  split
  · next soon => exact .ignored (.inl soon)
  · next late =>
      split
      · next open_ => exact .executed (by simpa using late) (by simpa using open_)
      · next closed => exact .ignored (.inr (by simpa using closed))

variable [Scheduler σ τ κ]

/-- The timer that the debouncer holds is active and set for the given time, in a period that
began at the stamp. -/
structure Awaits (id : TimerId) (time stamp : τ) : Prop where
  timer : debouncer.timer = some id
  status : Scheduler.status? scheduler id = some ⟨true, time⟩
  stamped : debouncer.leadingTimestamp = some stamp

/-- The forms of a call on the trailing edge. -/
inductive TrailingCall (callback : κ) (now : τ) : Turn τ σ ω → Prop where
  /-- There is no active timer, and a new period starts. -/
  | opened :
      (∀ id time stamp, ¬ Awaits debouncer scheduler id time stamp) →
      TrailingCall callback now (debouncer.startTimer scheduler callback now)
  /-- The time of the period has come, and the timer can still be cancelled. -/
  | overdue {id : TimerId} {time stamp : τ} :
      Awaits debouncer scheduler id time stamp → debouncer.extension stamp now ≤ now →
      (Scheduler.cancel scheduler id).1 = true →
      TrailingCall callback now
        (execute { debouncer with timer := none } (Scheduler.cancel scheduler id).2 .call
          (.record now))
  /-- The time of the period has come, but the timer cannot be cancelled any more. -/
  | overtaken {id : TimerId} {time stamp : τ} :
      Awaits debouncer scheduler id time stamp → debouncer.extension stamp now ≤ now →
      (Scheduler.cancel scheduler id).1 = false →
      TrailingCall callback now (debouncer.recorded (Scheduler.cancel scheduler id).2 now [])
  /-- The timer is moved to a later time. -/
  | moved {id : TimerId} {time stamp : τ} :
      Awaits debouncer scheduler id time stamp → ¬ debouncer.extension stamp now ≤ now →
      time < debouncer.extension stamp now →
      TrailingCall callback now
        (debouncer.recorded (Scheduler.reschedule scheduler id (debouncer.extension stamp now))
          now [.timerMoved debouncer.name (debouncer.extension stamp now)])
  /-- The timer is late enough already. -/
  | kept {id : TimerId} {time stamp : τ} :
      Awaits debouncer scheduler id time stamp → ¬ debouncer.extension stamp now ≤ now →
      ¬ time < debouncer.extension stamp now →
      TrailingCall callback now (debouncer.recorded scheduler now [])

theorem trailingCall_trailingEdge (callback : κ) (now : τ) :
    TrailingCall debouncer scheduler callback now
      (debouncer.trailingEdge scheduler callback now) := by
  rw [trailingEdge]
  split
  · next id time stamp timer status stamped =>
      have awaits : Awaits debouncer scheduler id time stamp :=
        ⟨timer, by simpa [timerStatus?, timer] using status, stamped⟩
      rw [extendTimer]
      split
      · next come =>
          split
          · next rest cancelled =>
              have form : TrailingCall debouncer scheduler callback now _ :=
                .overdue awaits come (congrArg Prod.fst cancelled)
              simpa only [cancelled] using form
          · next rest cancelled =>
              have form : TrailingCall debouncer scheduler callback now _ :=
                .overtaken awaits come (congrArg Prod.fst cancelled)
              simpa only [cancelled] using form
      · next ahead =>
          split
          · next later => exact .moved awaits ahead later
          · next settled => exact .kept awaits ahead settled
  · next other =>
      apply TrailingCall.opened
      intro id time stamp awaits
      exact other id time stamp awaits.timer
        (by simpa [timerStatus?, awaits.timer] using awaits.status) awaits.stamped

/-- The forms of a turn that serves a request. -/
inductive Served (callback : κ) : Request ω → Turn τ σ ω → Prop where
  | refusedCall :
      debouncer.work = none →
      Served callback (.call none)
        { debouncer := debouncer, scheduler := scheduler, demand := .reply (.error .noWork) }
  | passedOn {work? : Option ω} {work : ω} :
      work?.or debouncer.work = some work → debouncer.settings.passthrough = true →
      Served callback (.call work?)
        ({ debouncer with work := some work }.execute scheduler .call .passOn)
  | leading {work? : Option ω} {work : ω} {turn : Turn τ σ ω} :
      work?.or debouncer.work = some work → debouncer.settings.passthrough = false →
      debouncer.settings.leading = true →
      LeadingCall { debouncer with work := some work } scheduler (Scheduler.now scheduler) turn →
      Served callback (.call work?) turn
  | trailing {work? : Option ω} {work : ω} {turn : Turn τ σ ω} :
      work?.or debouncer.work = some work → debouncer.settings.passthrough = false →
      debouncer.settings.leading = false →
      TrailingCall { debouncer with work := some work } scheduler callback
        (Scheduler.now scheduler) turn →
      Served callback (.call work?) turn
  | refusedNow :
      debouncer.work = none →
      Served callback .callNow
        { debouncer := debouncer, scheduler := scheduler, demand := .reply (.error .noWork) }
  | ranNow {work : ω} :
      debouncer.work = some work →
      Served callback .callNow (debouncer.execute scheduler .callNow .passOn)
  | reset : Served callback .reset (debouncer.reset scheduler)
  | nothingToFlush :
      debouncer.timer = none →
      Served callback .flush
        { debouncer := debouncer, scheduler := scheduler, demand := .reply (.ok (.flag false)) }
  | flushed {id : TimerId} :
      debouncer.timer = some id → (Scheduler.cancel scheduler id).1 = true →
      Served callback .flush
        (execute { debouncer with timer := none } (Scheduler.cancel scheduler id).2 .flush .flushed)
  | tooLateToFlush {id : TimerId} :
      debouncer.timer = some id → (Scheduler.cancel scheduler id).1 = false →
      Served callback .flush
        { debouncer := debouncer
          scheduler := (Scheduler.cancel scheduler id).2
          demand := .reply (.ok (.flag false)) }

theorem served_call (callback : κ) (work? : Option ω) :
    Served debouncer scheduler callback (.call work?)
      (debouncer.call scheduler callback work?) := by
  rw [call]
  split
  · next absent =>
      rcases Option.or_eq_none_iff.mp absent with ⟨rfl, unsupplied⟩
      exact .refusedCall unsupplied
  · next work supplied =>
      dsimp only
      split
      · next through => exact .passedOn supplied through
      · next debounced =>
          split
          · next edge =>
              exact .leading supplied (by simpa using debounced) edge
                (leadingCall_leadingEdge _ scheduler _)
          · next edge =>
              exact .trailing supplied (by simpa using debounced) (by simpa using edge)
                (trailingCall_trailingEdge _ scheduler callback _)

/-- A request is served in one of the forms. -/
theorem served_serve (callback : κ) (request : Request ω) :
    Served debouncer scheduler callback request
      (debouncer.serve scheduler callback request) := by
  cases request with
  | call work? => exact served_call debouncer scheduler callback work?
  | callNow =>
      rw [serve, callNow]
      cases held : debouncer.work with
      | none => exact .refusedNow held
      | some work => exact .ranNow held
  | reset => exact .reset
  | flush =>
      rw [serve, flush]
      cases held : debouncer.timer with
      | none => exact .nothingToFlush held
      | some id =>
          dsimp only
          split
          · next rest cancelled =>
              have form : Served debouncer scheduler callback .flush _ :=
                .flushed held (congrArg Prod.fst cancelled)
              simpa only [cancelled] using form
          · next rest cancelled =>
              have form : Served debouncer scheduler callback .flush _ :=
                .tooLateToFlush held (congrArg Prod.fst cancelled)
              simpa only [cancelled] using form

end Debouncer

/-- The work that a request supplies. -/
def Request.supplied? : Request ω → Option ω
  | .call work? => work?
  | .callNow | .reset | .flush => none

namespace Debouncer

section Common

variable {debouncer : Debouncer τ ω} {scheduler : σ} [Scheduler σ τ κ] {callback : κ}
variable {request : Request ω} {turn : Turn τ σ ω} {now : τ}

@[simp] theorem rewound_settings : (debouncer.rewound now).settings = debouncer.settings := by
  rw [rewound]
  split <;> rfl

@[simp] theorem rewound_work : (debouncer.rewound now).work = debouncer.work := by
  rw [rewound]
  split <;> rfl

@[simp] theorem rewound_timer : (debouncer.rewound now).timer = debouncer.timer := by
  rw [rewound]
  split <;> rfl

omit [Instant τ] in
@[simp] theorem fire_settings (id : TimerId) :
    (debouncer.fire scheduler id).debouncer.settings = debouncer.settings := by
  rw [fire, execute]
  split <;> rfl

omit [Instant τ] in
@[simp] theorem fire_work (id : TimerId) :
    (debouncer.fire scheduler id).debouncer.work = debouncer.work := by
  rw [fire, execute]
  split <;> rfl

omit [Instant τ] in
@[simp] theorem fire_lastCall (id : TimerId) :
    (debouncer.fire scheduler id).debouncer.lastCall = debouncer.lastCall := by
  rw [fire, execute]
  split <;> rfl

omit [Instant τ] in
@[simp] theorem fire_scheduler (id : TimerId) :
    (debouncer.fire scheduler id).scheduler = scheduler := rfl

omit [Instant τ] in
/-- The callback of the timer that is held leaves no timer. -/
theorem fire_timer (scheduler : σ) {id : TimerId} (held : debouncer.timer = some id) :
    (debouncer.fire scheduler id).debouncer.timer = none := by
  simp [fire, execute, held]

omit [Instant τ] in
/-- The end of an operation changes nothing but what is recorded as the last call. -/
theorem finish_eq (debouncer : Debouncer τ ω) (tail : Tail τ) (reply : Reply τ) :
    (debouncer.finish tail reply).1 =
      { debouncer with lastCall := (debouncer.finish tail reply).1.lastCall } := by
  cases tail <;> cases reply <;> rfl

theorem Served.settings (served : Served debouncer scheduler callback request turn) :
    turn.debouncer.settings = debouncer.settings := by
  cases served with
  | leading _ _ _ form => cases form <;> rfl
  | trailing _ _ _ form => cases form <;> rfl
  | reset => simp [Debouncer.reset]
  | refusedCall | passedOn | refusedNow | ranNow | nothingToFlush | flushed | tooLateToFlush => rfl

/-- The work changes only with a call that supplies some. -/
theorem Served.work (served : Served debouncer scheduler callback request turn) :
    turn.debouncer.work = request.supplied?.or debouncer.work := by
  cases served with
  | passedOn supplied => exact supplied.symm
  | leading supplied _ _ form => cases form <;> exact supplied.symm
  | trailing supplied _ _ form => cases form <;> exact supplied.symm
  | reset => simp [Debouncer.reset, Request.supplied?]
  | refusedCall | refusedNow | ranNow | nothingToFlush | flushed | tooLateToFlush => rfl

end Common

end Debouncer

/-- The event tells that a work begins to run, or why a debouncer makes it run. -/
@[simp] def Event.IsExecution : Event τ → Prop
  | .executed _ _ | .ran _ _ _ _ => True
  | _ => False

/-- A timer is started. -/
@[simp] def Event.startsTimer : Event τ → Bool
  | .timerStarted _ _ => true
  | _ => false

namespace Turn

/-- The turn asks for an execution and reports it, as the last thing it does. -/
structure Executes (turn : Turn τ σ ω) (cause : Cause) : Prop where
  demand : ∃ tail, turn.demand = .execute tail
  events : ∃ earlier, turn.events = earlier ++ [.executed turn.debouncer.name cause] ∧
    ∀ event ∈ earlier, ¬ event.IsExecution

/-- The turn replies, and reports no execution. -/
structure Replies (turn : Turn τ σ ω) : Prop where
  demand : ∃ reply, turn.demand = .reply reply
  events : ∀ event ∈ turn.events, ¬ event.IsExecution

end Turn

namespace Debouncer

variable {debouncer : Debouncer τ ω} {scheduler : σ}

omit [Instant τ] in
theorem execute_executes (cause : Cause) (tail : Tail τ) :
    (debouncer.execute scheduler cause tail).Executes cause :=
  ⟨⟨tail, rfl⟩, [], rfl, by simp⟩

omit [Instant τ] in
theorem fire_executes (id : TimerId) : (debouncer.fire scheduler id).Executes (.timer id) :=
  execute_executes _ _

omit [Instant τ] in
theorem recorded_replies {now : τ} {events : List (Event τ)}
    (silent : ∀ event ∈ events, ¬ event.IsExecution) :
    (debouncer.recorded scheduler now events).Replies :=
  ⟨⟨_, rfl⟩, silent⟩

variable [Scheduler σ τ κ] {callback : κ} {request : Request ω} {turn : Turn τ σ ω}

theorem reset_replies : (debouncer.reset scheduler).Replies := by
  refine ⟨⟨_, rfl⟩, ?_⟩
  intro event member
  simp only [reset, List.mem_ite_nil_right, List.mem_singleton] at member
  simp [member.2]

theorem TrailingCall.executes_or_replies {now : τ}
    (form : TrailingCall debouncer scheduler callback now turn) :
    turn.Executes .call ∨ turn.Replies := by
  cases form with
  | opened _ => exact .inr (recorded_replies (by simp))
  | overdue _ _ _ => exact .inl (execute_executes _ _)
  | overtaken _ _ _ => exact .inr (recorded_replies (by simp))
  | moved _ _ _ => exact .inr (recorded_replies (by simp))
  | kept _ _ _ => exact .inr (recorded_replies (by simp))

/-- A turn that serves a request reports an execution if and only if it asks for one. -/
theorem Served.executes_or_replies (served : Served debouncer scheduler callback request turn) :
    (∃ cause, turn.Executes cause) ∨ turn.Replies := by
  cases served with
  | passedOn _ _ | ranNow _ | flushed _ _ => exact .inl ⟨_, execute_executes _ _⟩
  | leading _ _ _ form =>
      cases form with
      | ignored _ => exact .inr (recorded_replies (by simp))
      | executed _ _ => exact .inl ⟨_, execute_executes _ _⟩
  | trailing _ _ _ form => exact form.executes_or_replies.imp_left fun executes => ⟨_, executes⟩
  | reset => exact .inr reset_replies
  | refusedCall | refusedNow | nothingToFlush | tooLateToFlush =>
      exact .inr ⟨⟨_, rfl⟩, by simp⟩

/-- A turn that asks for an execution has work to run, if there is some whenever there is something
to flush. -/
theorem Served.work_of_executes (served : Served debouncer scheduler callback request turn)
    {cause : Cause} (executes : turn.Executes cause)
    (flushable : ∀ id, debouncer.timer = some id → (Scheduler.cancel scheduler id).1 = true →
      debouncer.work.isSome) : ∃ work, turn.debouncer.work = some work := by
  rcases executes.demand with ⟨tail, demand⟩
  cases served with
  | passedOn _ _ => exact ⟨_, rfl⟩
  | leading _ _ _ form => cases form <;> exact ⟨_, rfl⟩
  | trailing _ _ _ form => cases form <;> exact ⟨_, rfl⟩
  | ranNow supplied => exact ⟨_, supplied⟩
  | flushed held cancelled => exact Option.isSome_iff_exists.mp (flushable _ held cancelled)
  | refusedCall | refusedNow | reset | nothingToFlush | tooLateToFlush => cases demand

end Debouncer

/-- A policy of five seconds on the trailing edge. -/
def fiveSeconds : Settings where
  interval := some ⟨.ofSeconds 5, none, by decide, by simp⟩
  leading := false
  idleTime := none
  idleTime_nonneg := by simp

/-- One to two seconds. -/
def Interval.oneToTwo : Interval := ⟨.ofSeconds 1, some (.ofSeconds 2), by decide, by decide⟩

/-- A policy of one to two seconds with an idle time of ten seconds. -/
def oneToTwo (leading : Bool) : Settings where
  interval := some .oneToTwo
  leading := leading
  idleTime := some (.ofSeconds 10)
  idleTime_nonneg := by decide

end Debounce
