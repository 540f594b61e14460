import Debounce.Proofs.Lockstep
import Debounce.Proofs.Session
import Debounce.Proofs.Times

/-!
# Debouncers that decide alike

Some of what a debouncer holds does not matter. Without an idle time nothing depends on the end of
the interval, as the least spacing caps a period before, nor on when the last call was made; and
off the leading edge a beginning that is no longer that of a period is not looked at again.
Debouncers that differ in such things alone do the same in every turn, and differ in such things
alone after it.
-/

namespace Debounce

variable {τ σ κ ω : Type}

namespace Interval

/-- The interval without its end. -/
def endless (interval : Interval) : Interval where
  begin := interval.begin
  limit? := none
  begin_nonneg := interval.begin_nonneg
  begin_le_limit := by simp

end Interval

namespace Settings

/-- The policy without the end of its interval. -/
def endless (settings : Settings) : Settings :=
  { settings with interval := settings.interval.map Interval.endless }

@[simp] theorem endless_passthrough (settings : Settings) :
    settings.endless.passthrough = settings.passthrough :=
  Option.isNone_map

/-- A debounced call on the leading edge goes by what a reset has set. -/
def rewinds (settings : Settings) : Bool := settings.leading && !settings.passthrough

/-- The greatest spacing never passes before the least one has. -/
def Ordered (τ : Type) [Instant τ] (settings : Settings) : Prop :=
  ∀ interval last, settings.interval = some interval → interval.limit? = some last →
    ∀ stamp : τ, ¬ stamp + last.seconds < stamp + interval.begin.seconds

end Settings

/-- What two debouncers may differ in, where it does not matter. -/
structure Slack where
  /-- The end of the interval. -/
  limit : Bool := false
  /-- The beginning of the last period. -/
  stamp : Bool := false
  /-- The instant of the last call. -/
  call : Bool := false

namespace Debouncer

/-- The debouncers differ in what does not matter alone. -/
structure Resembles [Instant τ] (slack : Slack) (debouncer other : Debouncer τ ω) : Prop where
  fields : other =
    { debouncer with
      settings := other.settings
      leadingTimestamp := other.leadingTimestamp
      lastCall := other.lastCall }
  policy : other.settings = debouncer.settings ∨
    slack.limit = true ∧ other.settings = debouncer.settings.endless ∧
      debouncer.settings.idleTime = none ∧ debouncer.settings.Ordered τ
  stamp : other.leadingTimestamp = debouncer.leadingTimestamp ∨
    slack.stamp = true ∧ debouncer.timer = none ∧ debouncer.settings.rewinds = false
  called : other.lastCall = debouncer.lastCall ∨
    slack.call = true ∧
      (debouncer.settings.idleTime = none ∨ debouncer.settings.passthrough = true)

end Debouncer

/-- The turns do the same, and leave debouncers that resemble each other. -/
structure Turn.Resembles [Instant τ] (slack : Slack) (turn other : Turn τ σ ω) : Prop where
  debouncer : turn.debouncer.Resembles slack other.debouncer
  scheduler : other.scheduler = turn.scheduler
  events : other.events = turn.events
  demand : other.demand = turn.demand

namespace Debouncer

variable [Instant τ] {slack : Slack} {debouncer other : Debouncer τ ω} {scheduler : σ} {now : τ}

namespace Resembles

section Parts

variable (resembles : debouncer.Resembles slack other)
include resembles

theorem name : other.name = debouncer.name := by rw [resembles.fields]

theorem work : other.work = debouncer.work := by rw [resembles.fields]

theorem timer : other.timer = debouncer.timer := by rw [resembles.fields]

theorem settings_eq (fixed : slack.limit = false) : other.settings = debouncer.settings := by
  rcases resembles.policy with same | ⟨differs, _⟩
  · exact same
  · cases fixed.symm.trans differs

theorem stamp_eq (fixed : slack.stamp = false) :
    other.leadingTimestamp = debouncer.leadingTimestamp := by
  rcases resembles.stamp with same | ⟨differs, _⟩
  · exact same
  · cases fixed.symm.trans differs

theorem call_eq (fixed : slack.call = false) : other.lastCall = debouncer.lastCall := by
  rcases resembles.called with same | ⟨differs, _⟩
  · exact same
  · cases fixed.symm.trans differs

theorem leading : other.settings.leading = debouncer.settings.leading := by
  rcases resembles.policy with same | ⟨_, same, _⟩
  · rw [same]
  · rw [same]
    rfl

theorem passthrough : other.settings.passthrough = debouncer.settings.passthrough := by
  rcases resembles.policy with same | ⟨_, same, _⟩
  · rw [same]
  · rw [same, Settings.endless_passthrough]

theorem begin : other.begin = debouncer.begin := by
  rcases resembles.policy with same | ⟨_, same, _⟩
  · rw [Debouncer.begin, Debouncer.begin, same]
  · rw [Debouncer.begin, Debouncer.begin, same, Settings.endless]
    cases debouncer.settings.interval <;> rfl

theorem idleTime? : other.idleTime? = debouncer.idleTime? := by
  rcases resembles.policy with same | ⟨_, same, _⟩
  · rw [Debouncer.idleTime?, Debouncer.idleTime?, same]
  · rw [Debouncer.idleTime?, Debouncer.idleTime?, same]
    rfl

/-- The last calls are the same wherever the idle time is looked at. -/
theorem lastCall_eq (through : debouncer.settings.passthrough = false) :
    debouncer.idleTime? = none ∨ other.lastCall = debouncer.lastCall := by
  rcases resembles.called with same | ⟨_, unset | passes⟩
  · exact .inr same
  · exact .inl (by rw [Debouncer.idleTime?, unset]; rfl)
  · exact absurd passes (by simp [through])

theorem stamp_eq_of_timer (held : debouncer.timer.isSome) :
    other.leadingTimestamp = debouncer.leadingTimestamp := by
  rcases resembles.stamp with same | ⟨_, free, _⟩
  · exact same
  · simp [free] at held

theorem stamp_eq_of_rewinds (edge : debouncer.settings.rewinds = true) :
    other.leadingTimestamp = debouncer.leadingTimestamp := by
  rcases resembles.stamp with same | ⟨_, _, off⟩
  · exact same
  · simp [edge] at off

end Parts

section Updates

variable (resembles : debouncer.Resembles slack other)
include resembles

theorem rebind (work : ω) :
    Resembles slack { debouncer with work := some work } { other with work := some work } := by
  refine ⟨?_, resembles.policy, resembles.stamp, resembles.called⟩
  rw [resembles.fields]

theorem record (call : τ) :
    Resembles slack { debouncer with lastCall := some call } { other with lastCall := some call } := by
  refine ⟨?_, resembles.policy, resembles.stamp, .inl rfl⟩
  rw [resembles.fields]

theorem restamp (now : τ) :
    Resembles slack { debouncer with leadingTimestamp := some now }
      { other with leadingTimestamp := some now } := by
  refine ⟨?_, resembles.policy, .inl rfl, resembles.called⟩
  rw [resembles.fields]

theorem hold (now : τ) (id : TimerId) :
    Resembles slack { debouncer with leadingTimestamp := some now, timer := some id }
      { other with leadingTimestamp := some now, timer := some id } := by
  refine ⟨?_, resembles.policy, .inl rfl, resembles.called⟩
  rw [resembles.fields]

theorem release :
    Resembles slack { debouncer with timer := none } { other with timer := none } := by
  refine ⟨?_, resembles.policy, ?_, resembles.called⟩
  · rw [resembles.fields]
  · rcases resembles.stamp with same | ⟨may, _, off⟩
    · exact .inl same
    · exact .inr ⟨may, rfl, off⟩

theorem rewound (now : τ) :
    (debouncer.rewound now).Resembles slack (other.rewound now) := by
  have rewinds : other.settings.rewinds = debouncer.settings.rewinds := by
    rw [Settings.rewinds, Settings.rewinds, resembles.leading, resembles.passthrough]
  rw [Settings.rewinds, Settings.rewinds] at rewinds
  rw [Debouncer.rewound, Debouncer.rewound, rewinds, resembles.begin, resembles.idleTime?]
  split
  · refine ⟨?_, resembles.policy, .inl rfl, .inl rfl⟩
    rw [resembles.fields]
  · exact resembles

end Updates

/-! ## Decisions -/

section Decisions

variable (resembles : debouncer.Resembles slack other)
variable (through : debouncer.settings.passthrough = false)
include resembles through

theorem idle (now : τ) : other.idle now = debouncer.idle now := by
  rw [Debouncer.idle, Debouncer.idle, resembles.idleTime?]
  rcases resembles.lastCall_eq through with unset | same
  · rw [unset]
  · rw [same]

theorem firstDelay (now : τ) : other.firstDelay now = debouncer.firstDelay now := by
  rw [Debouncer.firstDelay, Debouncer.firstDelay, resembles.idleTime?, resembles.begin]
  rcases resembles.lastCall_eq through with unset | same
  · rw [unset]
  · rw [same]

theorem wanted (stamp now : τ) : other.wanted stamp now = debouncer.wanted stamp now := by
  rw [Debouncer.wanted, Debouncer.wanted, resembles.idleTime?, resembles.begin]
  rcases resembles.lastCall_eq through with unset | same
  · rw [unset]
  · have gap (span : τ) : other.gapIsIdleTime now span = debouncer.gapIsIdleTime now span := by
      rw [gapIsIdleTime, gapIsIdleTime, same]
    simp only [gap]

/-- Without an idle time a call asks for the least spacing, which is not capped. -/
theorem extension (stamp now : τ) : other.extension stamp now = debouncer.extension stamp now := by
  obtain ⟨interval, bounds⟩ : ∃ interval, debouncer.settings.interval = some interval :=
    Option.isSome_iff_exists.mp (by simpa [Settings.passthrough] using through)
  have wanted := resembles.wanted through stamp now
  rcases resembles.policy with same | ⟨_, same, unset, ordered⟩
  · rw [extension_eq_capped bounds, extension_eq_capped (same ▸ bounds), wanted]
  · have opened : other.settings.interval = some interval.endless := by
      simp [same, Settings.endless, bounds]
    have least : debouncer.wanted stamp now = stamp + interval.begin.seconds := by
      rw [Debouncer.wanted, Debouncer.idleTime?, unset, begin_eq bounds]
      rfl
    rw [extension_eq_capped bounds, extension_eq_capped opened, wanted, least]
    cases limit : interval.limit? with
    | none => rfl
    | some last => exact (if_neg (ordered interval last bounds limit stamp)).symm

end Decisions

/-! ## Turns -/

section Turns

variable (resembles : debouncer.Resembles slack other)
include resembles

theorem execute (cause : Cause) (tail : Tail τ) :
    (debouncer.execute scheduler cause tail).Resembles slack (other.execute scheduler cause tail) :=
  ⟨resembles, rfl, by rw [Debouncer.execute, Debouncer.execute, resembles.name], rfl⟩

theorem recorded (now : τ) {events others : List (Event τ)} (same : others = events) :
    (debouncer.recorded scheduler now events).Resembles slack
      (other.recorded scheduler now others) :=
  ⟨resembles.record now, rfl, same, rfl⟩

theorem replies (reply : Reply τ) :
    Turn.Resembles (τ := τ) slack ⟨debouncer, scheduler, [], .reply reply⟩
      ⟨other, scheduler, [], .reply reply⟩ :=
  ⟨resembles, rfl, rfl, rfl⟩

theorem leadingEdge (through : debouncer.settings.passthrough = false)
    (edge : debouncer.settings.leading = true) (now : τ) :
    (debouncer.leadingEdge scheduler now).Resembles slack (other.leadingEdge scheduler now) := by
  have stamp := resembles.stamp_eq_of_rewinds (by rw [Settings.rewinds, edge, through]; rfl)
  have soon : other.tooSoon now = debouncer.tooSoon now := by
    rw [tooSoon, tooSoon, stamp, resembles.begin]
  -- The greatest spacing is only looked at if there is an idle time.
  have open_ : (other.idle now || other.maxIntervalReached now) =
      (debouncer.idle now || debouncer.maxIntervalReached now) := by
    rw [resembles.idle through]
    rcases resembles.policy with same | ⟨_, _, unset, _⟩
    · rw [maxIntervalReached, maxIntervalReached, limit?, limit?, same, stamp]
    · have idle : debouncer.idle now = true := by
        rw [Debouncer.idle, Debouncer.idleTime?, unset]
        rfl
      rw [idle, Bool.true_or, Bool.true_or]
  rw [Debouncer.leadingEdge, Debouncer.leadingEdge, soon, open_]
  split
  · exact resembles.recorded now rfl
  · split
    · exact (resembles.restamp now).execute .call (.record now)
    · exact resembles.recorded now rfl

variable [Scheduler σ τ κ] {callback : κ}

theorem startTimer (through : debouncer.settings.passthrough = false) (now : τ) :
    (debouncer.startTimer scheduler callback now).Resembles slack
      (other.startTimer scheduler callback now) := by
  rw [Debouncer.startTimer, Debouncer.startTimer, resembles.firstDelay through]
  rcases Scheduler.schedule scheduler (debouncer.firstDelay now) callback with ⟨id, rest⟩
  exact (resembles.hold now id).recorded now (by rw [resembles.name])

theorem extendTimer (through : debouncer.settings.passthrough = false) (id : TimerId)
    (time stamp now : τ) :
    (debouncer.extendTimer scheduler id time stamp now).Resembles slack
      (other.extendTimer scheduler id time stamp now) := by
  rw [Debouncer.extendTimer, Debouncer.extendTimer, resembles.extension through]
  split
  · split
    · exact resembles.release.execute .call (.record now)
    · exact resembles.recorded now rfl
  · split
    · exact resembles.recorded now (by rw [resembles.name])
    · exact resembles.recorded now rfl

theorem timerStatus? (scheduler : σ) :
    other.timerStatus? scheduler = debouncer.timerStatus? scheduler := by
  rw [Debouncer.timerStatus?, Debouncer.timerStatus?, resembles.timer]

theorem trailingEdge (through : debouncer.settings.passthrough = false) (now : τ) :
    (debouncer.trailingEdge scheduler callback now).Resembles slack
      (other.trailingEdge scheduler callback now) := by
  rw [Debouncer.trailingEdge, Debouncer.trailingEdge, resembles.timer,
    resembles.timerStatus? scheduler]
  cases held : debouncer.timer with
  | none => exact resembles.startTimer through now
  | some id =>
      rw [resembles.stamp_eq_of_timer (by simp [held])]
      split
      · exact resembles.extendTimer through _ _ _ now
      · exact resembles.startTimer through now

theorem call (work? : Option ω) :
    (debouncer.call scheduler callback work?).Resembles slack
      (other.call scheduler callback work?) := by
  rw [Debouncer.call, Debouncer.call, resembles.work]
  cases work?.or debouncer.work with
  | none => exact resembles.replies _
  | some work =>
      have bound := resembles.rebind work
      dsimp only
      rw [resembles.passthrough, resembles.leading]
      split
      · exact bound.execute .call .passOn
      · next debounced =>
          have through : debouncer.settings.passthrough = false := by simpa using debounced
          split
          · next edge => exact bound.leadingEdge through edge _
          · exact bound.trailingEdge through _

theorem reset :
    (debouncer.reset scheduler).Resembles slack (other.reset scheduler) := by
  rw [Debouncer.reset, Debouncer.reset, resembles.timer]
  cases debouncer.timer with
  | none => exact ⟨resembles.release.rewound _, rfl, rfl, rfl⟩
  | some id => exact ⟨resembles.release.rewound _, rfl, by rw [resembles.name], rfl⟩

theorem flush :
    (debouncer.flush scheduler).Resembles slack (other.flush scheduler) := by
  rw [Debouncer.flush, Debouncer.flush, resembles.timer]
  cases debouncer.timer with
  | none => exact resembles.replies _
  | some id =>
      dsimp only
      split
      · exact resembles.release.execute .flush .flushed
      · exact resembles.replies _

/-- Debouncers that resemble each other serve a request alike. -/
theorem serve (request : Request ω) :
    (debouncer.serve scheduler callback request).Resembles slack
      (other.serve scheduler callback request) := by
  cases request with
  | call work? => exact resembles.call work?
  | callNow =>
      rw [Debouncer.serve, Debouncer.serve, Debouncer.callNow, Debouncer.callNow, resembles.work]
      cases debouncer.work with
      | none => exact resembles.replies _
      | some work => exact resembles.execute .callNow .passOn
  | reset => exact resembles.reset
  | flush => exact resembles.flush

omit [Scheduler σ τ κ] in
theorem fire (id : TimerId) :
    (debouncer.fire scheduler id).Resembles slack (other.fire scheduler id) := by
  rw [Debouncer.fire, Debouncer.fire, resembles.timer]
  split
  · exact resembles.release.execute _ .passOn
  · exact resembles.execute _ .passOn

theorem finish (tail : Tail τ) (reply : Reply τ) :
    (debouncer.finish tail reply).1.Resembles slack (other.finish tail reply).1 ∧
      (other.finish tail reply).2 = (debouncer.finish tail reply).2 := by
  cases tail with
  | passOn => exact ⟨resembles, rfl⟩
  | record call =>
      cases reply with
      | error fault => exact ⟨resembles, rfl⟩
      | ok value => exact ⟨resembles.record call, rfl⟩
  | flushed => cases reply <;> exact ⟨resembles, rfl⟩

end Turns

end Resembles

end Debouncer

/-! ## Sessions -/

namespace DebouncerSession

/-- The operation shows the policy. -/
def Op.showsPolicy : Op τ → Bool
  | .policy | .text => true
  | .request _ | .advance _ | .now => false

variable [Instant τ] {slack : Slack} {store other : Store τ}

/-- The stores share an agenda, and their debouncers resemble each other. -/
structure Store.Resembles (slack : Slack) (store other : Store τ) : Prop where
  agenda : other.agenda = store.agenda
  debouncer : store.debouncer.Resembles slack other.debouncer

/-- The outcomes are the same but for debouncers that resemble each other. -/
abbrev Outcome.Resembles (slack : Slack) (outcome other : Outcome τ) : Prop :=
  Machine.EffectsAgree (fun told => told) (Store.Resembles slack) outcome other

theorem resembles_answer {before after : Store τ} (resembles : before.Resembles slack after)
    (reply : Reply τ) : Outcome.Resembles slack (answer before reply) (answer after reply) :=
  ⟨resembles, rfl, rfl⟩

theorem resembles_take {turn opposite : Turn τ (Agenda τ Unit) (Work (Op τ) (Reply τ))}
    (resembles : turn.Resembles slack opposite) (frame : Tail τ → Frame τ) :
    Outcome.Resembles slack (take turn frame) (take opposite frame) := by
  rcases turn with ⟨debouncer, agenda, events, demand⟩
  rcases opposite with ⟨debouncer', agenda', events', demand'⟩
  obtain ⟨rfl, rfl, rfl⟩ : agenda' = agenda ∧ events' = events ∧ demand' = demand :=
    ⟨resembles.scheduler, resembles.events, resembles.demand⟩
  have alike : Store.Resembles slack ⟨agenda', debouncer⟩ ⟨agenda', debouncer'⟩ :=
    ⟨rfl, resembles.debouncer⟩
  rw [take, take, Turn.effect, Turn.effect]
  cases demand' with
  | reply reply => exact ⟨alike, rfl, rfl⟩
  | execute tail =>
      have held : debouncer'.work = debouncer.work := resembles.debouncer.work
      dsimp only
      rw [held]
      cases debouncer.work with
      | none => exact ⟨alike, rfl, rfl⟩
      | some work => exact ⟨alike, rfl, rfl⟩

namespace Store.Resembles

variable (resembles : store.Resembles slack other)
include resembles

theorem sweep (deadline : τ) (fired : Nat) :
    Outcome.Resembles slack (DebouncerSession.sweep store deadline fired)
      (DebouncerSession.sweep other deadline fired) := by
  rw [DebouncerSession.sweep, DebouncerSession.sweep, resembles.agenda]
  cases store.agenda.fireNext? deadline with
  | none =>
      have arrived : Store.Resembles slack { store with agenda := store.agenda.arrive deadline }
          { other with agenda := store.agenda.arrive deadline } := ⟨rfl, resembles.debouncer⟩
      exact resembles_answer arrived _
  | some found =>
      rcases found with ⟨id, timer, agenda⟩
      have fires : (store.debouncer.fire agenda id).Resembles slack (other.debouncer.fire agenda id) :=
        resembles.debouncer.fire id
      have turns : (store.firing agenda id timer).Resembles slack (other.firing agenda id timer) :=
        ⟨fires.debouncer, fires.scheduler, congrArg (List.cons _) fires.events, fires.demand⟩
      exact resembles_take turns _

theorem start (op : Op τ) (allowed : slack.limit = true → op.showsPolicy = false) :
    Outcome.Resembles slack (DebouncerSession.start op store)
      (DebouncerSession.start op other) := by
  have same (shows : op.showsPolicy = true) :
      other.debouncer.settings = store.debouncer.settings := by
    apply resembles.debouncer.settings_eq
    cases differs : slack.limit with
    | false => rfl
    | true => cases shows.symm.trans (allowed differs)
  cases op with
  | request request =>
      rw [DebouncerSession.start, DebouncerSession.start, resembles.agenda]
      exact resembles_take (resembles.debouncer.serve request) _
  | advance delay =>
      cases delay with
      | error fault => exact resembles_answer resembles _
      | ok delay =>
          rw [DebouncerSession.start, DebouncerSession.start, resembles.agenda]
          exact resembles.sweep _ 0
  | now =>
      rw [DebouncerSession.start, DebouncerSession.start, resembles.agenda]
      exact resembles_answer resembles _
  | policy =>
      rw [DebouncerSession.start, DebouncerSession.start, same rfl]
      exact resembles_answer resembles _
  | text =>
      have text : other.debouncer.constructorText = store.debouncer.constructorText := by
        have policy := same rfl
        unfold Debouncer.constructorText
        rw [policy, resembles.debouncer.name]
      rw [DebouncerSession.start, DebouncerSession.start, text]
      exact resembles_answer resembles _

theorem resume (frame : Frame τ) (reply : Reply τ) :
    Outcome.Resembles slack (DebouncerSession.resume frame reply store)
      (DebouncerSession.resume frame reply other) := by
  cases frame with
  | serving tail =>
      rcases resembles.debouncer.finish tail reply with ⟨debouncer, same⟩
      have left : Store.Resembles slack
          { store with debouncer := (store.debouncer.finish tail reply).1 }
          { other with debouncer := (other.debouncer.finish tail reply).1 } :=
        ⟨resembles.agenda, debouncer⟩
      rw [DebouncerSession.resume, DebouncerSession.resume]
      dsimp only
      rw [same]
      exact resembles_answer left _
  | advancing deadline fired =>
      cases reply with
      | error fault => exact resembles_answer resembles _
      | ok value => exact resembles.sweep deadline fired

end Store.Resembles

/-- Runs from debouncers that resemble each other are the same, but for what the debouncers differ
in. -/
theorem run_resembles (fuel : Nat) {state opposite : State τ}
    (allowed : ∀ op depth, .began op depth ∈ (machine.run fuel state).trace →
      slack.limit = true → op.showsPolicy = false)
    (locked : Machine.Lockstep (fun told => told) (Store.Resembles slack) state opposite) :
    Machine.Lockstep (fun told => told) (Store.Resembles slack) (machine.run fuel state)
      (machine.run fuel opposite) :=
  Machine.run_lockstep (fun op => slack.limit = true → op.showsPolicy = false)
    (fun op _ _ may resembles => resembles.start op may)
    (fun frame reply _ _ resembles => resembles.resume frame reply) fuel allowed locked

end DebouncerSession

end Debounce
