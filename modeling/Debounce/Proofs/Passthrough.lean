import Debounce.Proofs.Calls
import Debounce.Proofs.Closing
import Debounce.Proofs.Hosting
import Debounce.Proofs.MissingWork
import Mathlib.Data.List.Infix

/-!
# Debouncers without an interval

A debouncer without an interval remembers one thing, which is the work supplied last. Whatever else
its policy says, it reads no clock and sets no timer: every call and every `callNow` runs that work
there and then, and a reset or a flush has nothing to do. This holds on every scheduler, however its
clock goes, and in every state of a run, also inside works.
-/

namespace Debounce

/-! ## Turns -/

namespace Debouncer

section Turns

variable {τ σ κ ω : Type} {settings : Settings} {name : Value} {work? : Option ω} {scheduler : σ}
variable {request : Request ω} {turn : Turn τ σ ω}

/-- The debouncer that knows its work, if there is one, and nothing else. -/
def knowing (settings : Settings) (name : Value) (work? : Option ω) : Debouncer τ ω where
  settings := settings
  name := name
  work := work?

/-- The turns of a debouncer without an interval. -/
inductive Passing (settings : Settings) (name : Value) (work? : Option ω) (scheduler : σ)
    (request : Request ω) : Turn τ σ ω → Prop where
  /-- No work was ever supplied. -/
  | refused :
      request.NeedsWork → request.supplied?.or work? = none →
      Passing settings name work? scheduler request
        { debouncer := knowing settings name none
          scheduler := scheduler
          demand := .reply (.error .noWork) }
  /-- The work runs, and nothing is left to do after it. -/
  | executed {work : ω} {cause : Cause} :
      request.NeedsWork → request.supplied?.or work? = some work →
      Passing settings name work? scheduler request
        ((knowing settings name (some work)).execute scheduler cause .passOn)
  /-- There is nothing to reset or to flush. -/
  | declined :
      ¬ request.NeedsWork →
      Passing settings name work? scheduler request
        { debouncer := knowing settings name work?
          scheduler := scheduler
          demand := .reply (.ok (.flag false)) }

theorem Passing.debouncer (passing : Passing settings name work? scheduler request turn) :
    turn.debouncer = knowing settings name (request.supplied?.or work?) := by
  cases passing with
  | refused _ missing => rw [missing]
  | executed _ found =>
      rw [found]
      rfl
  | declined spared =>
      cases request with
      | call | callNow => exact absurd trivial spared
      | reset | flush => rfl

theorem Passing.scheduler_eq (passing : Passing settings name work? scheduler request turn) :
    turn.scheduler = scheduler := by
  cases passing <;> rfl

variable [Instant τ]

theorem new_eq_knowing (through : settings.passthrough = true) (now : τ) :
    (new settings name now : Debouncer τ ω) = knowing settings name none := by
  simp [new, rewound, through, knowing]

variable [Scheduler σ τ κ]

theorem reset_knowing (through : settings.passthrough = true) :
    (knowing settings name work? : Debouncer τ ω).reset scheduler =
      { debouncer := knowing settings name work?
        scheduler := scheduler
        demand := .reply (.ok (.flag false)) } := by
  simp [reset, rewound, knowing, through]

theorem passing_serve (through : settings.passthrough = true) (callback : κ)
    (request : Request ω) :
    Passing settings name work? scheduler request
      ((knowing settings name work?).serve scheduler callback request) := by
  have form := served_serve (knowing settings name work?) scheduler callback request
  generalize (knowing settings name work?).serve scheduler callback request = turn at form
  cases form with
  | refusedCall absent | refusedNow absent =>
      obtain rfl : work? = none := absent
      exact .refused trivial rfl
  | passedOn supplied _ => exact .executed trivial supplied
  | ranNow supplied =>
      obtain rfl : work? = some _ := supplied
      exact .executed trivial rfl
  | leading _ debounced _ _ | trailing _ debounced _ _ => cases through.symm.trans debounced
  | reset =>
      rw [reset_knowing through]
      exact .declined id
  | nothingToFlush _ => exact .declined id
  | flushed held _ | tooLateToFlush held _ => cases held

end Turns

section Effects

variable {Op Store Frame τ σ κ : Type} [Scheduler σ τ κ] {settings : Settings} {name : Value}
variable {scheduler : σ} {work? : Option (Work Op (Reply τ))}
variable {request : Request (Work Op (Reply τ))}
variable {turn : Turn τ σ (Work Op (Reply τ))} {context : Fields} {frame : Tail τ → Frame}
variable {put : Debouncer τ (Work Op (Reply τ)) → σ → Store}

theorem Passing.frame_eq (passing : Passing settings name work? scheduler request turn)
    {later : Frame} (goesOn : (turn.effect context frame put).next.frame? = some later) :
    later = frame .passOn := by
  cases passing with
  | refused | declined => cases goesOn
  | executed => exact (Option.some.inj goesOn).symm

/-- A call that finds work runs it, and no other work; no other request runs any. -/
theorem Passing.works_effect (passing : Passing settings name work? scheduler request turn) :
    (turn.effect context frame put).works =
      (if request.NeedsWork then request.supplied?.or work? else none).toList.map
        fun work => (work.id, work.name) := by
  cases passing with
  | refused needs missing => simp [Effect.works, Turn.effect, missing]
  | executed needs found =>
      rw [if_pos needs, found]
      rfl
  | declined spared => simp [Effect.works, Turn.effect, spared]

end Effects

end Debouncer

/-! ## Calls and the works they are due -/

section Due

variable {Op R Event : Type} [Requesting Op R]

/-- The work that is due to the last moment of a history, if that is a call: the work that was
supplied last, by the call itself or before. -/
def dueWork? (history : List (Moment Op R Event)) : Option (Work Op R) := do
  let moment ← history.getLast?
  let request ← moment.request?
  if request.NeedsWork then latestWork? history else none

/-- The works that are due to the calls of a history, in the order of the calls. -/
def dueWorks (history : List (Moment Op R Event)) : List (Work Op R) :=
  history.inits.filterMap dueWork?

theorem dueWorks_concat (history : List (Moment Op R Event)) (moment : Moment Op R Event) :
    dueWorks (history ++ [moment]) =
      dueWorks history ++ (dueWork? (history ++ [moment])).toList := by
  rw [dueWorks, List.inits_append, List.filterMap_append]
  cases due : dueWork? (history ++ [moment]) <;> simp [due, dueWorks]

theorem dueWorks_append (history : List (Moment Op R Event)) {moments : List (Moment Op R Event)}
    (silent : ∀ moment ∈ moments, moment.request? = none) :
    dueWorks (history ++ moments) = dueWorks history := by
  induction moments generalizing history with
  | nil => simp
  | cons moment rest ih =>
      rw [List.append_cons, ih _ fun other member => silent other (List.mem_cons_of_mem _ member),
        dueWorks_concat]
      simp [dueWork?, silent moment List.mem_cons_self]

variable {op : Op} {request : Request (Work Op R)}

theorem latestWork?_began (history : List (Moment Op R Event))
    (asks : Requesting.request? op = some request) (depth : Nat) :
    latestWork? (history ++ [.began op depth]) = request.supplied?.or (latestWork? history) := by
  rw [latestWork?_concat, Moment.request?, asks]
  rfl

theorem dueWork?_began (history : List (Moment Op R Event))
    (asks : Requesting.request? op = some request) (depth : Nat) :
    dueWork? (history ++ [.began op depth]) =
      if request.NeedsWork then request.supplied?.or (latestWork? history) else none := by
  simp [dueWork?, Moment.request?, asks, latestWork?_began history asks]

end Due

/-! ## Runs -/

namespace Machine

variable {Op Store Frame τ : Type}

/-- The operation that begins here runs the work at once, and that is all it runs. When the script
of the work has come to its end, the next step ends the operation with the same reply. -/
def PassesOn (machine : Machine Op (Reply τ) Store Frame (Event τ)) (op : Op)
    (work : Work Op (Reply τ)) (state : Config Op (Reply τ) Store Frame (Event τ)) : Prop :=
  ∃ begun name cause now context, machine.Executes cause work now state begun ∧
    ∀ ended reply inside, machine.Returns reply begun ended inside →
      ∃ after, machine.step? ended = some after ∧ after.store = ended.store ∧
        machine.Performs op reply state after
          (.event (.executed name cause) :: .event (.ran work.id work.name now context) :: inside)

/-- The next step begins and ends the operation, which runs nothing, changes nothing and replies
`false`. -/
def Declines (machine : Machine Op (Reply τ) Store Frame (Event τ)) (op : Op)
    (state : Config Op (Reply τ) Store Frame (Event τ)) : Prop :=
  ∃ after, machine.step? state = some after ∧ after.store = state.store ∧
    machine.Performs op (.ok (.flag false)) state after []

end Machine

namespace Machine.Hosting

variable {Op Store Frame τ σ κ : Type} [Requesting Op (Reply τ)] [Instant τ] [Scheduler σ τ κ]
variable {machine : Machine Op (Reply τ) Store Frame (Event τ)} {host : machine.Hosting σ}
variable {settings : Settings} {name : Value} {scheduler : σ} {store : Store} {frames : List Frame}
variable {history : List (Moment Op (Reply τ) (Event τ))}

/-- The debouncer knows the work supplied last, and the calls have run the works they were due. All
that the operations which wait are to do is to pass a reply on. -/
structure Remembers (host : machine.Hosting σ) (settings : Settings) (name : Value) (scheduler : σ)
    (store : Store) (frames : List Frame) (history : List (Moment Op (Reply τ) (Event τ))) :
    Prop where
  view : host.view store = some (.knowing settings name (latestWork? history), scheduler)
  waits : ∀ frame ∈ frames, frame = host.frame .passOn
  ran : works history = (dueWorks history).map fun work => (work.id, work.name)

variable {op : Op} {request : Request (Work Op (Reply τ))}

/-- A request is served by a turn of a debouncer without an interval. -/
theorem Remembers.exists_passing
    (remembers : host.Remembers settings name scheduler store frames history)
    (through : settings.passthrough = true) (asks : Requesting.request? op = some request) :
    ∃ turn, Debouncer.Passing settings name (latestWork? history) scheduler request turn ∧
      machine.start op store = turn.effect (host.context store) host.frame (host.put store) :=
  ⟨_, Debouncer.passing_serve through (host.callback store) request,
    host.start op request store _ _ asks remembers.view⟩

theorem Remembers.started (remembers : host.Remembers settings name scheduler store frames history)
    (through : settings.passthrough = true) (asks : Requesting.request? op = some request)
    (depth : Nat) :
    host.Remembers settings name scheduler (machine.start op store).store
      ((machine.start op store).next.frame?.toList ++ frames)
      (history ++ .began op depth :: (machine.start op store).moments op depth) := by
  have silent (moment : Moment Op (Reply τ) (Event τ))
      (member : moment ∈ (machine.start op store).moments op depth) : moment.request? = none :=
    Effect.request?_of_mem_moments member
  obtain ⟨turn, passing, begins⟩ := remembers.exists_passing through asks
  rw [List.append_cons]
  constructor
  · rw [latestWork?_append _ silent, latestWork?_began history asks, begins, Turn.effect_store,
      passing.debouncer, passing.scheduler_eq]
    exact host.view_put _ _ _
  · intro frame member
    rcases List.mem_append.mp member with goesOn | before
    · rw [begins, Option.mem_toList] at goesOn
      exact passing.frame_eq goesOn
    · exact remembers.waits frame before
  · rw [works_append, works_append, works_moments, dueWorks_append _ silent, dueWorks_concat,
      dueWork?_began history asks, List.map_append, remembers.ran, begins, passing.works_effect]
    simp [works, Moment.work?]

theorem Remembers.resumed {frame : Frame}
    (remembers : host.Remembers settings name scheduler store (frame :: frames) history)
    (op : Op) (reply : Reply τ) (depth : Nat) :
    host.Remembers settings name scheduler (machine.resume frame reply store).store
      ((machine.resume frame reply store).next.frame?.toList ++ frames)
      (history ++ (machine.resume frame reply store).moments op depth) := by
  have silent (moment : Moment Op (Reply τ) (Event τ))
      (member : moment ∈ (machine.resume frame reply store).moments op depth) :
      moment.request? = none :=
    Effect.request?_of_mem_moments member
  obtain rfl := remembers.waits frame List.mem_cons_self
  constructor
  · rw [latestWork?_append _ silent, host.resume_passOn]
    exact remembers.view
  · rw [host.resume_passOn]
    exact fun other member => remembers.waits other (List.mem_cons_of_mem _ member)
  · rw [works_append, works_moments, dueWorks_append _ silent, host.resume_passOn, remembers.ran]
    simp [Effect.works]

/-- What is no request changes the scheduler at most. -/
theorem Remembers.spared (remembers : host.Remembers settings name scheduler store frames history)
    (vacant : Scheduler.Vacant scheduler) (other : Requesting.request? op = none)
    (spares : host.Spares op) (depth : Nat) :
    ∃ later, Scheduler.Vacant later ∧
      host.Remembers settings name later (machine.start op store).store
        ((machine.start op store).next.frame?.toList ++ frames)
        (history ++ .began op depth :: (machine.start op store).moments op depth) := by
  obtain ⟨idle, ends, later, still, hosted⟩ := spares store _ scheduler remembers.view vacant
  have silent : ∀ moment ∈ Moment.began op depth :: (machine.start op store).moments op depth,
      moment.request? = none := by
    rintro moment (_ | ⟨_, member⟩)
    · exact other
    · exact Effect.request?_of_mem_moments member
  refine ⟨later, still, ?_, ?_, ?_⟩
  · rw [latestWork?_append _ silent]
    exact hosted
  · rw [ends]
    exact remembers.waits
  · rw [dueWorks_append _ silent, ← remembers.ran, List.append_cons, works_append, works_append,
      works_moments, idle]
    simp [works, Moment.work?]

/-- In every state of a run the debouncer remembers the work, and nothing else. -/
theorem remembers_of_reaches (through : settings.passthrough = true)
    {first state : Config Op (Reply τ) Store Frame (Event τ)}
    (hosted : host.view first.store = some (.knowing settings name none, scheduler))
    (vacant : Scheduler.Vacant scheduler) (outermost : first.stack = []) (blank : first.trace = [])
    (reaches : machine.Reaches first state)
    (spares : ∀ op depth, .began op depth ∈ state.trace → Requesting.request? op = none →
      host.Spares op) :
    ∃ later, Scheduler.Vacant later ∧
      host.Remembers settings name later state.store (state.stack.map Suspended.frame)
        state.trace := by
  apply reaches.keeps_frames (fun store frames history =>
    (∀ op depth, .began op depth ∈ history → Requesting.request? op = none → host.Spares op) →
      ∃ later, Scheduler.Vacant later ∧
        host.Remembers settings name later store frames history) _ _ _ spares
  · intro op depth store frames history kept spares
    obtain ⟨later, still, remembers⟩ := kept fun other level member =>
      spares other level (List.mem_append_left _ member)
    cases asks : Requesting.request? op with
    | some request => exact ⟨later, still, remembers.started through asks depth⟩
    | none => exact remembers.spared still asks (spares op depth (by simp) asks) depth
  · intro op frame reply depth store frames history kept spares
    obtain ⟨later, still, remembers⟩ := kept fun other level member =>
      spares other level (List.mem_append_left _ member)
    exact ⟨later, still, remembers.resumed op reply depth⟩
  · intro _
    rw [outermost, blank]
    exact ⟨scheduler, vacant, hosted, by simp, rfl⟩

/-! ## What a request does -/

theorem Remembers.start_executes
    (remembers : host.Remembers settings name scheduler store frames history)
    (through : settings.passthrough = true) (asks : Requesting.request? op = some request)
    (needs : request.NeedsWork) {work : Work Op (Reply τ)}
    (found : request.supplied?.or (latestWork? history) = some work) :
    ∃ cause, machine.start op store =
      { store := host.put store (.knowing settings name (some work)) scheduler
        events := [.executed name cause,
          .ran work.id work.name (Scheduler.now scheduler) (host.context store)]
        next := .enter (host.frame .passOn) work {} } := by
  obtain ⟨turn, passing, begins⟩ := remembers.exists_passing through asks
  rw [begins]
  cases passing with
  | refused _ missing => cases found.symm.trans missing
  | executed _ same =>
      obtain rfl := Option.some.inj (found.symm.trans same)
      exact ⟨_, rfl⟩
  | declined spared => exact absurd needs spared

theorem Remembers.start_declines
    (remembers : host.Remembers settings name scheduler store frames history)
    (through : settings.passthrough = true) (asks : Requesting.request? op = some request)
    (spared : ¬ request.NeedsWork) :
    machine.start op store =
      { store := store, events := [], next := .finish (.ok (.flag false)) } := by
  obtain ⟨turn, passing, begins⟩ := remembers.exists_passing through asks
  rw [begins]
  cases passing with
  | refused needs _ | executed needs _ => exact absurd needs spared
  | declined _ =>
      have same := host.put_view store _ _ remembers.view
      simp [Turn.effect, same]

theorem Remembers.passesOn {state : Config Op (Reply τ) Store Frame (Event τ)}
    (remembers : host.Remembers settings name scheduler state.store frames history)
    (through : settings.passthrough = true) (asks : Requesting.request? op = some request)
    (needs : request.NeedsWork) {work : Work Op (Reply τ)}
    (found : request.supplied?.or (latestWork? history) = some work)
    {next : Reply τ → Script Op (Reply τ)} (script : state.script = .step op next) :
    machine.PassesOn op work state := by
  obtain ⟨cause, begins⟩ := remembers.start_executes through asks needs found
  have enters : (machine.start op state.store).next = .enter (host.frame .passOn) work {} := by
    rw [begins]
  have executes : (machine.start op state.store).Executes cause work (Scheduler.now scheduler) := by
    rw [begins]
    exact ⟨⟨_, rfl⟩, [], name, _, rfl, by simp⟩
  refine ⟨_, name, cause, _, host.context state.store, .of_start script executes, ?_⟩
  intro ended reply inside returns
  have finishes : (machine.resume (host.frame .passOn) reply ended.store).next = .finish reply := by
    rw [host.resume_passOn]
  have told : (machine.start op state.store).events.map Moment.event ++ (inside ++
        (machine.resume (host.frame .passOn) reply ended.store).events.map Moment.event) =
      .event (.executed name cause) ::
        .event (.ran work.id work.name (Scheduler.now scheduler) (host.context state.store)) ::
          inside := by
    rw [begins, host.resume_passOn]
    simp
  have performs := Closes.performs script (.enter enters returns (closes_finish finishes))
  rw [told] at performs
  refine ⟨_, returns.goes_on enters, ?_, performs⟩
  rw [settle_store, host.resume_passOn]

theorem Remembers.declines {state : Config Op (Reply τ) Store Frame (Event τ)}
    (remembers : host.Remembers settings name scheduler state.store frames history)
    (through : settings.passthrough = true) (asks : Requesting.request? op = some request)
    (spared : ¬ request.NeedsWork) {next : Reply τ → Script Op (Reply τ)}
    (script : state.script = .step op next) : machine.Declines op state := by
  have begins := remembers.start_declines through asks spared
  have finishes : (machine.start op state.store).next = .finish (.ok (.flag false)) := by
    rw [begins]
  have performs := Closes.performs script (closes_finish finishes)
  refine ⟨_, by rw [step?, script], ?_, ?_⟩
  · rw [settle_store, begins]
  · rwa [begins] at performs ⊢

/-- What a debouncer without an interval is and does in a state of a run. -/
structure PassesThrough (host : machine.Hosting σ) (settings : Settings) (name : Value)
    (state : Config Op (Reply τ) Store Frame (Event τ)) : Prop where
  /-- It knows the work supplied last and nothing else, and no timer was ever set. -/
  knows : ∃ scheduler, Scheduler.Vacant scheduler ∧ host.view state.store = some
    ({ settings := settings, name := name, work := latestWork? state.trace, timer := none,
       leadingTimestamp := none, lastCall := none }, scheduler)
  /-- The works that have run are those that were due to the calls, in the order of the calls. -/
  ran : works state.trace = (dueWorks state.trace).map fun work => (work.id, work.name)
  /-- A call that knows a work runs it. -/
  runs : ∀ op request next work, state.script = .step op next →
    Requesting.request? op = some request → request.NeedsWork →
    latestWork? (state.trace ++ [.began op state.stack.length]) = some work →
    machine.PassesOn op work state
  /-- A reset and a flush have nothing to do. -/
  declines : ∀ op request next, state.script = .step op next →
    Requesting.request? op = some request → ¬ request.NeedsWork → machine.Declines op state

/-- Whatever its scheduler, a debouncer without an interval passes every call through. -/
theorem passesThrough_of_reaches (through : settings.passthrough = true)
    {first state : Config Op (Reply τ) Store Frame (Event τ)} {clock : τ}
    (hosted : host.view first.store = some (.new settings name clock, scheduler))
    (vacant : Scheduler.Vacant scheduler) (outermost : first.stack = []) (blank : first.trace = [])
    (reaches : machine.Reaches first state)
    (spares : ∀ op depth, .began op depth ∈ state.trace → Requesting.request? op = none →
      host.Spares op) :
    host.PassesThrough settings name state := by
  rw [Debouncer.new_eq_knowing through] at hosted
  obtain ⟨later, still, remembers⟩ :=
    remembers_of_reaches through hosted vacant outermost blank reaches spares
  constructor
  · exact ⟨later, still, remembers.view⟩
  · exact remembers.ran
  · intro op request next work script asks needs found
    rw [latestWork?_began _ asks] at found
    exact remembers.passesOn through asks needs found script
  · intro op request next script asks spared
    exact remembers.declines through asks spared script

end Machine.Hosting

/-- A debouncer without an interval runs every call and remembers only the work, on a virtual clock,
on a bench that is worked by hand, and with timers of a background pool. In every state of a run,
also inside works, it knows the work supplied last, but no timer and no instant, and the scheduler
has no timer, however the clock goes. The works that have run are those that were due to the calls,
in the order of the calls. A call that finds work runs it at once and ends with its reply, and a
reset or a flush replies that there was nothing to do. -/
theorem passthrough_remembers_only_work {τ : Type} [Instant τ] (settings : Settings) (name : Value)
    (clock : τ) (through : settings.passthrough = true) :
    (∀ script state,
      DebouncerSession.machine.Reaches (DebouncerSession.State.initial settings name clock script)
        state →
      DebouncerSession.hosting.PassesThrough settings name state) ∧
    (∀ script state,
      BenchSession.machine.Reaches
        { store := .new (.new settings name clock) clock, script := script } state →
      BenchSession.hosting.PassesThrough settings name state) ∧
    ∀ environment store script state,
      BackgroundSession.Store.create clock environment = .ok store →
      BackgroundSession.machine.Reaches
        { store := { store with debouncer := some (.new settings name clock) }
          script := script } state →
      (∀ op depth, .began op depth ∈ state.trace → op.employs = false) →
      BackgroundSession.hosting.PassesThrough settings name state := by
  refine ⟨?_, ?_, ?_⟩
  · intro script state reaches
    exact Machine.Hosting.passesThrough_of_reaches through rfl (Agenda.vacant_iff.mpr rfl) rfl rfl
      reaches fun op _ _ other => DebouncerSession.spares_of_other other
  · intro script state reaches
    exact Machine.Hosting.passesThrough_of_reaches through rfl (Bench.vacant_iff.mpr rfl) rfl rfl
      reaches fun op _ _ other => BenchSession.spares_of_other other
  · intro environment store script state created reaches alone
    have empty : store.agenda.timers = [] := by
      rw [BackgroundSession.Store.create] at created
      split at created
      · cases created
        rfl
      · cases created
    exact Machine.Hosting.passesThrough_of_reaches through rfl (Agenda.vacant_iff.mpr empty) rfl rfl
      reaches fun op depth member other =>
        BackgroundSession.spares_of_other other (alone op depth member)

/-- A policy on the leading edge with an idle time, but without an interval. -/
def unspaced : Settings where
  interval := none
  leading := true
  idleTime := some (.ofSeconds 60)
  idleTime_nonneg := by decide

namespace DebouncerSession

theorem untimed_of_passesThrough {τ : Type} [Instant τ] {settings : Settings} {name : Value}
    {state : State τ} (passes : hosting.PassesThrough settings name state) :
    state.store.debouncer.timer = none ∧ state.store.agenda.timers = [] := by
  obtain ⟨agenda, vacant, hosted⟩ := passes.knows
  have knows := Option.some.inj hosted
  have same : state.store.agenda = agenda := congrArg Prod.snd knows
  constructor
  · exact congrArg (fun known => known.1.timer) knows
  · rw [same]
    exact Agenda.vacant_iff.mp vacant

/-- A work that supplies another one by a call of its own, and fails. -/
def supplying (work : Work (Op Rat) (Reply Rat)) : Work (Op Rat) (Reply Rat) where
  id := [1]
  name := "supplying"
  body _ := .step (.request (.call (some work))) fun _ => .done (.error (.raised .value []))

end DebouncerSession

open DebouncerSession in
/-- A call fails with the work that it runs, after that work has called with another one. There is
nothing to reset then, and a minute later the other work runs again. With a background pool a call
runs its work as well. -/
theorem passthrough_remembers_only_work_of_two :
    let first := State.initial unspaced .null 0
      (.before [.request (.call (some (supplying (.resting [0])))), .request .reset,
        .advance (.ok 60), .request .callNow] (.done (.ok .nothing)))
    let ended := machine.run 3 first
    let state := machine.run 8 first
    unspaced.passthrough = true ∧ machine.Reaches first state ∧
      (∃ after during, machine.step? ended = some after ∧
        machine.Performs (.request (.call (some (supplying (.resting [0])))))
          (.error (.raised .value [])) first after during) ∧
      works state.trace = [([1], "supplying"), ([0], "replying"), ([0], "replying")] ∧
      machine.Declines (.request .reset) (machine.run 4 first) ∧
      state.store.debouncer.timer = none ∧ state.store.agenda.timers = [] ∧
      ∃ store, BackgroundSession.Store.create (0 : Rat) [] = .ok store ∧
        ∀ work, BackgroundSession.machine.PassesOn (.request (.call (some work))) work
          { store := { store with debouncer := some (.new unspaced .null 0) }
            script := .perform (.request (.call (some work))) } := by
  intro first ended state
  have through : unspaced.passthrough = true := rfl
  have reaches := Machine.reaches_run machine 8 first
  have passes := passthrough_remembers_only_work unspaced .null (0 : Rat) through
  have atFirst := passes.1 _ first .refl
  have atState := passes.1 _ state reaches
  obtain ⟨begun, name, cause, now, context, executes, ends⟩ :=
    atFirst.runs _ (.call (some (supplying (.resting [0])))) _ _ rfl rfl trivial rfl
  obtain rfl : machine.run 1 first = begun := Option.some.inj executes.stepped
  have inside : machine.Reaches (machine.run 1 first) ended := Machine.reaches_run machine 2 _
  have returns : machine.Returns (.error (.raised .value [])) (machine.run 1 first) ended
      (ended.trace.drop (machine.run 1 first).trace.length) := by
    constructor
    · exact inside
    · rfl
    · rfl
    · exact (List.prefix_iff_eq_append.mp inside.record_grows).symm
    · decide +kernel
  obtain ⟨after, stepped, _, performs⟩ := ends ended _ _ returns
  have untimed := untimed_of_passesThrough atState
  refine ⟨through, reaches, ⟨after, _, stepped, performs⟩, ?_, ?_, untimed.1, untimed.2, _, rfl, ?_⟩
  · rw [atState.ran]
    decide +kernel
  · have atReset := passes.1 _ _ (Machine.reaches_run machine 4 first)
    exact atReset.declines _ .reset _ rfl rfl id
  · intro work
    exact (passes.2.2 [] _ (.perform _) _ rfl .refl (by simp)).runs _ (.call (some work)) _ work rfl
      rfl trivial rfl

end Debounce
