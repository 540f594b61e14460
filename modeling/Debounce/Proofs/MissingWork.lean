import Debounce.Proofs.Completion
import Debounce.Proofs.Delivery
import Mathlib.Data.List.Induction

/-!
# Missing work

A debouncer fails on its own account for one reason only: it is called before any work was supplied.
It changes nothing then. Every other failure of an operation is that of the work it ran, which is
passed on as it is. The work, the timer and the two instants are read where earlier operations have
set them, whatever the works did in between: a pending timer stands for a call and for a period, and
on the leading edge both instants are set from the beginning.
-/

namespace Debounce

/-! ## The work of a suspended operation -/

namespace Machine

variable {Op R Store Frame Event : Type} {machine : Machine Op R Store Frame Event}
variable {first before entered state last : Config Op R Store Frame Event}

/-- A run in which nothing that was suspended at its beginning goes on. -/
inductive Within (machine : Machine Op R Store Frame Event)
    (entered : Config Op R Store Frame Event) : Config Op R Store Frame Event → Prop where
  | refl : Within machine entered entered
  | step {state last : Config Op R Store Frame Event} :
      Within machine entered state → machine.step? state = some last →
      entered.stack <:+ last.stack → Within machine entered last

/-- The step with which an operation comes to wait for a work. -/
inductive Suspending (machine : Machine Op R Store Frame Event)
    (before : Config Op R Store Frame Event) (waiting : Suspended Op R Frame) :
    Config Op R Store Frame Event → Prop where
  | start :
      before.script = .step waiting.op waiting.next →
      (machine.start waiting.op before.store).next.frame? = some waiting.frame →
      Suspending machine before waiting
        (settle { before with trace := before.trace ++ [.began waiting.op before.stack.length] }
          waiting.op waiting.next (machine.start waiting.op before.store))
  | resume {reply : R} {frame : Frame} {rest : List (Suspended Op R Frame)} :
      before.script = .done reply → before.stack = ⟨waiting.op, frame, waiting.next⟩ :: rest →
      (machine.resume frame reply before.store).next.frame? = some waiting.frame →
      Suspending machine before waiting
        (settle { before with stack := rest } waiting.op waiting.next
          (machine.resume frame reply before.store))

/-- What a step leaves suspended was so before, or it is the operation that acts. -/
theorem suspending_or_suffix {waiting : Suspended Op R Frame} {below : List (Suspended Op R Frame)}
    (stepped : machine.step? state = some last) (suspended : waiting :: below <:+ last.stack) :
    waiting :: below <:+ state.stack ∨
      last.stack = waiting :: below ∧ Suspending machine state waiting last := by
  cases step_of_step? stepped with
  | @start op next script =>
      rw [settle_stack] at suspended ⊢
      cases goesOn : (machine.start op state.store).next.frame? with
      | none =>
          left
          simpa [goesOn] using suspended
      | some frame =>
          rw [goesOn] at suspended
          rcases List.suffix_cons_iff.mp suspended with same | inside
          · obtain ⟨rfl, rfl⟩ := List.cons.inj same
            exact .inr ⟨rfl, .start script goesOn⟩
          · exact .inl inside
  | ask script => exact .inl suspended
  | @resume reply op frame next rest script stack =>
      rw [settle_stack] at suspended ⊢
      have deeper : rest <:+ state.stack := stack ▸ List.suffix_cons _ _
      cases goesOn : (machine.resume frame reply state.store).next.frame? with
      | none =>
          left
          rw [goesOn] at suspended
          exact suspended.trans deeper
      | some later =>
          rw [goesOn] at suspended
          rcases List.suffix_cons_iff.mp suspended with same | inside
          · obtain ⟨rfl, rfl⟩ := List.cons.inj same
            exact .inr ⟨rfl, .resume script stack goesOn⟩
          · exact .inl (inside.trans deeper)

/-- An operation that is suspended has come to wait for a work, and nothing around that work has
gone on since. -/
theorem Reaches.suspending (reaches : machine.Reaches first state) (outermost : first.stack = [])
    {waiting : Suspended Op R Frame} {below : List (Suspended Op R Frame)}
    (suspended : waiting :: below <:+ state.stack) :
    ∃ before entered, machine.Reaches first before ∧ Suspending machine before waiting entered ∧
      entered.stack = waiting :: below ∧ Within machine entered state := by
  induction reaches with
  | refl => simp [outermost] at suspended
  | @step state last reaches stepped ih =>
      rcases suspending_or_suffix stepped suspended with inside | ⟨stack, suspending⟩
      · obtain ⟨before, entered, earlier, suspending, stack, within⟩ := ih inside
        exact ⟨before, entered, earlier, suspending, stack,
          within.step stepped (stack ▸ suspended)⟩
      · exact ⟨state, last, reaches, suspending, stack, .refl⟩

/-- Only operations that run works are ever suspended. -/
theorem Reaches.suspends (reaches : machine.Reaches first state) (Suspends : Op → Prop)
    (suspended : ∀ op store frame, (machine.start op store).next.frame? = some frame → Suspends op)
    (outermost : first.stack = []) : ∀ waiting ∈ state.stack, Suspends waiting.op :=
  reaches.waits (fun op _ => Suspends op) suspended (fun _ _ _ _ _ suspends _ => suspends) outermost

end Machine

/-! ## Turns that fail -/

/-- The request runs the work or has it run later. -/
def Request.NeedsWork {ω : Type} : Request ω → Prop
  | .call _ | .callNow => True
  | .reset | .flush => False

instance {ω : Type} : DecidablePred (Request.NeedsWork (ω := ω))
  | .call _ | .callNow => isTrue trivial
  | .reset | .flush => isFalse id

namespace Debouncer

variable {τ σ κ ω : Type} [Instant τ] [Scheduler σ τ κ] {debouncer : Debouncer τ ω}
variable {scheduler : σ} {callback : κ} {request : Request ω} {turn : Turn τ σ ω} {fault : Fault}

theorem LeadingCall.succeeds {now : τ} (form : LeadingCall debouncer scheduler now turn) :
    turn.demand ≠ .reply (.error fault) := by
  cases form <;> exact nofun

theorem TrailingCall.succeeds {now : τ}
    (form : TrailingCall debouncer scheduler callback now turn) :
    turn.demand ≠ .reply (.error fault) := by
  cases form <;> exact nofun

/-- A request is refused if it needs work and there is none, and then nothing changes. -/
theorem Served.refused_iff (served : Served debouncer scheduler callback request turn) :
    turn.demand = .reply (.error fault) ↔
      fault = .noWork ∧ request.NeedsWork ∧ request.supplied?.or debouncer.work = none := by
  cases served with
  | refusedCall absent | refusedNow absent =>
      simp [Request.NeedsWork, Request.supplied?, absent, eq_comm]
  | passedOn supplied _ | ranNow supplied => simp [Request.supplied?, execute, supplied]
  | leading supplied _ _ form => simp [form.succeeds, Request.supplied?, supplied]
  | trailing supplied _ _ form => simp [form.succeeds, Request.supplied?, supplied]
  | reset | nothingToFlush | flushed | tooLateToFlush =>
      simp [Request.NeedsWork, Debouncer.reset, execute]

theorem Served.of_refused (served : Served debouncer scheduler callback request turn)
    (refused : turn.demand = .reply (.error fault)) :
    turn.debouncer = debouncer ∧ turn.scheduler = scheduler := by
  have missing := (served.refused_iff.mp refused).2
  cases served with
  | refusedCall | refusedNow => exact ⟨rfl, rfl⟩
  | passedOn supplied _ | leading supplied _ _ _ | trailing supplied _ _ _ | ranNow supplied =>
      simp [Request.supplied?, supplied] at missing
  | reset | nothingToFlush | flushed | tooLateToFlush => exact missing.1.elim

/-! ## The instants of a debouncer -/

/-- The instants are set wherever they are added to or compared. -/
structure Timed (debouncer : Debouncer τ ω) : Prop where
  called : debouncer.timer.isSome → debouncer.lastCall.isSome
  leading : debouncer.settings.leading = true → debouncer.settings.passthrough = false →
    debouncer.leadingTimestamp.isSome ∧ debouncer.lastCall.isSome

namespace Timed

omit [Instant τ] in
theorem record (timed : debouncer.Timed) (call : τ) :
    ({ debouncer with lastCall := some call } : Debouncer τ ω).Timed where
  called _ := rfl
  leading edge debounced := ⟨(timed.leading edge debounced).1, rfl⟩

omit [Instant τ] in
theorem rebind (timed : debouncer.Timed) (work : ω) :
    ({ debouncer with work := some work } : Debouncer τ ω).Timed :=
  ⟨timed.called, timed.leading⟩

omit [Instant τ] in
theorem release (timed : debouncer.Timed) :
    ({ debouncer with timer := none } : Debouncer τ ω).Timed :=
  ⟨nofun, timed.leading⟩

theorem rewound (debouncer : Debouncer τ ω) (now : τ) (free : debouncer.timer = none) :
    (debouncer.rewound now).Timed := by
  refine ⟨by simp [free], ?_⟩
  rw [rewound_settings]
  intro edge debounced
  simp [Debouncer.rewound, edge, debounced]

omit [Instant τ] in
theorem fire (timed : debouncer.Timed) (scheduler : σ) (id : TimerId) :
    (debouncer.fire scheduler id).debouncer.Timed := by
  rw [Debouncer.fire, execute]
  dsimp only
  split
  · exact timed.release
  · exact timed

theorem served (timed : debouncer.Timed)
    (form : Served debouncer scheduler callback request turn) : turn.debouncer.Timed := by
  cases form with
  | refusedCall | refusedNow | ranNow | nothingToFlush | tooLateToFlush => exact timed
  | passedOn => exact timed.rebind _
  | leading _ _ _ call =>
      cases call with
      | ignored _ => exact (timed.rebind _).record _
      | executed _ _ =>
          exact ⟨timed.called, fun edge debounced => ⟨rfl, (timed.leading edge debounced).2⟩⟩
  | trailing _ _ edge call =>
      cases call with
      | opened _ => exact ⟨fun _ => rfl, fun leads => absurd (leads.symm.trans edge) nofun⟩
      | overdue _ _ _ => exact (timed.rebind _).release
      | overtaken | moved | kept => exact (timed.rebind _).record _
  | reset => exact rewound _ _ rfl
  | flushed _ _ => exact timed.release

end Timed

end Debouncer

namespace DebouncerSession

variable {τ : Type}

theorem supplied?_eq_none {moment : Moment (Op τ) (Reply τ) (Event τ)} :
    moment.request?.bind Request.supplied? = none ↔
      ∀ work depth, .began (.request (.call (some work))) depth ≠ moment := by
  constructor
  · rintro absent work depth rfl
    cases absent
  · intro other
    cases moment with
    | began op depth =>
        cases asks : Requesting.request? op with
        | none => simp [Moment.request?, asks]
        | some request =>
            obtain rfl := Op.eq_of_request? asks
            cases request with
            | call work? =>
                cases work? with
                | none => rfl
                | some work => exact absurd rfl (other work depth)
            | callNow | reset | flush => rfl
    | event | ended => rfl

/-- No call of the history supplied work. -/
def Unsupplied (history : History τ) : Prop :=
  ∀ work depth, .began (.request (.call (some work))) depth ∉ history

/-- Then no work is known. -/
theorem latestWork?_eq_none {history : History τ} :
    latestWork? history = none ↔ Unsupplied history := by
  induction history using List.reverseRecOn with
  | nil => simp [latestWork?, Unsupplied]
  | append_singleton history moment ih =>
      have split : Unsupplied (history ++ [moment]) ↔
          Unsupplied history ∧
            ∀ work depth, .began (.request (.call (some work))) depth ≠ moment := by
        simp only [Unsupplied, List.mem_append, List.mem_singleton, not_or]
        grind
      rw [latestWork?_concat, Option.or_eq_none_iff, ih, split, and_comm, and_congr_right_iff]
      intro _
      exact supplied?_eq_none

variable [Instant τ] {store : Store τ} {outcome : Outcome τ}

theorem Passage.timed (passage : Passage store outcome) (timed : store.debouncer.Timed) :
    outcome.store.debouncer.Timed := by
  cases passage with
  | answered | arrived _ => exact timed
  | recorded => exact timed.record _
  | fired _ => simpa [take, Store.firing] using timed.fire _ _

/-- In every state of a run the instants are set wherever they are read. -/
theorem timed_of_reaches {settings : Settings} {name : Value} {clock : τ}
    {script : Script (Op τ) (Reply τ)} {state : State τ}
    (reaches : machine.Reaches (State.initial settings name clock script) state) :
    state.store.debouncer.Timed := by
  refine keeps_store reaches (fun store => store.debouncer.Timed) ?_
    (fun store outcome => Passage.timed) (Debouncer.Timed.rewound _ _ rfl)
  intro request store timed
  simpa [start, take] using
    timed.served (Debouncer.served_serve store.debouncer store.agenda () request)

/-! ## How sections end -/

/-- The section replies, or it begins an execution. -/
def RepliesOrExecutes (outcome : Outcome τ) : Prop :=
  (∃ reply, outcome.next = .finish reply) ∨ ∃ cause work now, outcome.Executes cause work now

theorem repliesOrExecutes_request (coherent : store.debouncer.Coherent store.agenda)
    (request : Request (Work (Op τ) (Reply τ))) :
    RepliesOrExecutes (start (.request request) store) := by
  have form := Debouncer.served_serve store.debouncer store.agenda () request
  rcases form.executes_or_replies with ⟨cause, executes⟩ | replies
  · obtain ⟨work, held⟩ :=
      form.work_of_executes executes fun _ held _ => coherent.supplied (by simp [held])
    exact .inr ⟨cause, work, _, by rw [start]; exact executes.effect held⟩
  · obtain ⟨reply, demand⟩ := replies.demand
    left
    rw [start, take, Turn.effect_of_reply demand]
    exact ⟨reply, rfl⟩

/-- The timer of the debouncer finds work to run. -/
theorem Passage.executes_of_fired (coherent : store.debouncer.Coherent store.agenda) {deadline : τ}
    {id : TimerId} {timer : Timer τ Unit} {agenda : Agenda τ Unit}
    (found : store.agenda.fireNext? deadline = some (id, timer, agenda))
    (frame : Tail τ → Frame τ) :
    ∃ work now, (take (store.firing agenda id timer) frame).Executes (.timer id) work now := by
  have held := (coherent.timer_of_fireNext? found).1
  obtain ⟨work, supplied⟩ := Option.isSome_iff_exists.mp (coherent.supplied (by simp [held]))
  exact ⟨work, _, (store.firing_executes agenda id timer).effect (by simpa [Store.firing])⟩

theorem Passage.repliesOrExecutes (coherent : store.debouncer.Coherent store.agenda)
    (passage : Passage store outcome) : RepliesOrExecutes outcome := by
  cases passage with
  | answered | recorded | arrived _ => exact .inl ⟨_, rfl⟩
  | fired found =>
      obtain ⟨work, now, executes⟩ := Passage.executes_of_fired coherent found _
      exact .inr ⟨_, work, now, executes⟩

omit [Instant τ] in
theorem RepliesOrExecutes.of_frame? (either : RepliesOrExecutes outcome) {frame : Frame τ}
    (goesOn : outcome.next.frame? = some frame) :
    ∃ cause work now, outcome.Executes cause work now := by
  rcases either with ⟨reply, finishes⟩ | executes
  · simp [finishes, Next.frame?] at goesOn
  · exact executes

/-- An operation comes to wait by beginning an execution. -/
theorem executes_of_suspending {before entered : State τ}
    {waiting : Suspended (Op τ) (Reply τ) (Frame τ)}
    (coherent : before.store.debouncer.Coherent before.store.agenda)
    (suspending : machine.Suspending before waiting entered) :
    ∃ cause work now, machine.Executes cause work now before entered := by
  cases suspending with
  | start script goesOn =>
      have either : RepliesOrExecutes (start waiting.op before.store) := by
        cases asks : Requesting.request? waiting.op with
        | none => exact (passage_start _ _ asks).repliesOrExecutes coherent
        | some request => exact Op.eq_of_request? asks ▸ repliesOrExecutes_request coherent request
      obtain ⟨cause, work, now, executes⟩ := either.of_frame? goesOn
      exact ⟨cause, work, now, .of_start script executes⟩
  | @resume reply frame rest script stack goesOn =>
      have either := (passage_resume frame reply before.store).repliesOrExecutes coherent
      obtain ⟨cause, work, now, executes⟩ := either.of_frame? goesOn
      exact ⟨cause, work, now, .of_resume script stack executes⟩

/-! ## Where failures come from -/

/-- A request fails at once if its turn refuses it. -/
theorem request_fails_iff_refused {fault : Fault}
    (coherent : store.debouncer.Coherent store.agenda)
    (request : Request (Work (Op τ) (Reply τ))) :
    (start (.request request) store).next = .finish (.error fault) ↔
      (store.debouncer.serve store.agenda () request).demand = .reply (.error fault) := by
  have form := Debouncer.served_serve store.debouncer store.agenda () request
  rcases form.executes_or_replies with ⟨cause, executes⟩ | replies
  · obtain ⟨work, held⟩ :=
      form.work_of_executes executes fun _ held _ => coherent.supplied (by simp [held])
    obtain ⟨tail, demand⟩ := executes.demand
    simp [start, take, Turn.effect, demand, held]
  · obtain ⟨reply, demand⟩ := replies.demand
    rw [start, take, Turn.effect_of_reply demand, demand]
    simp

/-- It does if it needs work and none was ever supplied. -/
theorem request_fails_iff {history : History τ} {fault : Fault}
    (coherent : store.debouncer.Coherent store.agenda)
    (known : store.debouncer.work = latestWork? history)
    (request : Request (Work (Op τ) (Reply τ))) (depth : Nat) :
    (start (.request request) store).next = .finish (.error fault) ↔
      fault = .noWork ∧ request.NeedsWork ∧
        Unsupplied (history ++ [.began (.request request) depth]) := by
  have form := Debouncer.served_serve store.debouncer store.agenda () request
  rw [request_fails_iff_refused coherent, form.refused_iff, ← latestWork?_eq_none,
    latestWork?_concat, ← known]
  rfl

/-- Then it changes nothing. -/
theorem store_of_request_fails {fault : Fault} (coherent : store.debouncer.Coherent store.agenda)
    {request : Request (Work (Op τ) (Reply τ))}
    (fails : (start (.request request) store).next = .finish (.error fault)) :
    (start (.request request) store).store = store := by
  have form := Debouncer.served_serve store.debouncer store.agenda () request
  obtain ⟨debouncer, agenda⟩ :=
    form.of_refused ((request_fails_iff_refused coherent request).mp fails)
  rw [start, take, Turn.effect_store, debouncer, agenda]

/-- A section that serves no request does not fail, unless it is given a failure. -/
theorem sweep_succeeds {fault : Fault} (coherent : store.debouncer.Coherent store.agenda)
    (deadline : τ) (count : Nat) : (sweep store deadline count).next ≠ .finish (.error fault) := by
  rw [sweep]
  split
  · simp [answer]
  · next id timer agenda found =>
      obtain ⟨work, now, executes⟩ := Passage.executes_of_fired coherent found
        fun _ => .advancing deadline (count + 1)
      obtain ⟨frame, enters⟩ := executes.next
      intro fails
      cases enters.symm.trans fails

theorem eq_of_start_fails {op : Op τ} {fault : Fault}
    (coherent : store.debouncer.Coherent store.agenda)
    (fails : (start op store).next = .finish (.error fault)) :
    (∃ request, op = .request request) ∨
      op = .advance (.error fault) ∧ (start op store).store = store := by
  cases op with
  | request request => exact .inl ⟨request, rfl⟩
  | advance delay =>
      cases delay with
      | error other =>
          cases fails
          exact .inr ⟨rfl, rfl⟩
      | ok delay => exact absurd fails (sweep_succeeds coherent _ _)
  | now | policy | text => cases fails

/-- An operation that goes on fails if it is given a failure, and it passes that on. -/
theorem eq_of_resume_fails {frame : Frame τ} {reply : Reply τ} {fault : Fault}
    (coherent : store.debouncer.Coherent store.agenda)
    (fails : (resume frame reply store).next = .finish (.error fault)) : reply = .error fault := by
  cases reply with
  | error other =>
      cases frame with
      | serving tail => cases tail <;> cases fails <;> rfl
      | advancing deadline count =>
          cases fails
          rfl
  | ok value =>
      cases frame with
      | serving tail => cases tail <;> cases fails
      | advancing deadline count => exact absurd fails (sweep_succeeds coherent _ _)

/-- Why an operation ends with a failure. -/
inductive Failure (first state next : State τ) (op : Op τ) (fault : Fault) : Prop where
  /-- No work was ever supplied, this time included, and nothing has changed. -/
  | refused {request : Request (Work (Op τ) (Reply τ))} :
      op = .request request → request.NeedsWork → fault = .noWork →
      Unsupplied (state.trace ++ [.began op state.stack.length]) → next.store = state.store →
      Failure first state next op fault
  /-- The delay of an advance is no number. -/
  | notANumber :
      op = .advance (.error fault) → next.store = state.store → Failure first state next op fault
  /-- The operation has begun an execution, and what is left of the work that runs there is this
  failure. -/
  | passedOn {before entered : State τ} {cause : Cause} {work : Work (Op τ) (Reply τ)} {now : τ}
      {frame : Frame τ} {goesOn : Reply τ → Script (Op τ) (Reply τ)}
      {below : List (Suspended (Op τ) (Reply τ) (Frame τ))} :
      machine.Reaches first before → machine.Executes cause work now before entered →
      entered.stack = ⟨op, frame, goesOn⟩ :: below → machine.Within entered state →
      state.stack = entered.stack → state.script = .done (.error fault) →
      Failure first state next op fault

theorem failure_of_records {settings : Settings} {name : Value} {clock : τ}
    {script : Script (Op τ) (Reply τ)} {state next : State τ} {op : Op τ} {fault : Fault}
    {depth : Nat} (reaches : machine.Reaches (State.initial settings name clock script) state)
    (records : machine.Records state next (.ended op (.error fault) depth)) :
    Failure (State.initial settings name clock script) state next op fault := by
  have coherent := coherent_of_reaches reaches
  have known := (remembers_of_reaches reaches).work
  cases records.recording with
  | @start acting rest script member =>
      obtain ⟨fails, rfl, _⟩ := Effect.ended_mem_moments (List.mem_of_ne_of_mem (by simp) member)
      rcases eq_of_start_fails coherent fails with ⟨request, rfl⟩ | ⟨rfl, same⟩
      · obtain ⟨rfl, needs, unsupplied⟩ :=
          (request_fails_iff coherent known request state.stack.length).mp fails
        refine .refused rfl needs rfl unsupplied ?_
        rw [Machine.settle_store]
        exact store_of_request_fails coherent fails
      · refine .notANumber rfl ?_
        rw [Machine.settle_store]
        exact same
  | @resume reply acting frame rest below script stack member =>
      obtain ⟨fails, rfl, _⟩ := Effect.ended_mem_moments member
      obtain rfl := eq_of_resume_fails coherent fails
      have suspended : ⟨op, frame, rest⟩ :: below <:+ state.stack := stack ▸ List.suffix_rfl
      obtain ⟨before, entered, earlier, suspending, entering, within⟩ :=
        reaches.suspending rfl suspended
      obtain ⟨cause, work, now, executes⟩ :=
        executes_of_suspending (coherent_of_reaches earlier) suspending
      exact .passedOn earlier executes entering within (stack.trans entering.symm) script

/-- A reset runs no work. -/
theorem reset_not_suspended {op : Op τ} {frame : Frame τ}
    (goesOn : (start op store).next.frame? = some frame) : op ≠ .request .reset := by
  rintro rfl
  rw [start, take, Debouncer.serve, Debouncer.reset, Turn.effect_of_reply rfl] at goesOn
  cases goesOn

theorem reset_succeeds {settings : Settings} {name : Value} {clock : τ}
    {script : Script (Op τ) (Reply τ)} {state next : State τ} {fault : Fault} {depth : Nat}
    (reaches : machine.Reaches (State.initial settings name clock script) state) :
    ¬ machine.Records state next (.ended (.request .reset) (.error fault) depth) := by
  intro records
  cases failure_of_records reaches records with
  | refused same needs =>
      cases same
      exact needs
  | notANumber same => cases same
  | passedOn _ _ entering _ stack _ =>
      have suspended := reaches.suspends (· ≠ .request .reset)
        (fun _ _ _ => reset_not_suspended) rfl
      rw [stack, entering] at suspended
      exact suspended _ List.mem_cons_self rfl

/-- Only missing work can fail. In every state of a run, also inside works, a request fails on its
own account if and only if it is a call of some kind and no work was ever supplied, this call
included, and then it changes nothing. Whatever else fails has been failed by the work that it ran,
or is an advance by no number; a reset never fails. A debouncer with a pending timer has both
instants set, and so has a debouncer on the leading edge from the beginning, where a passthrough
policy is on no edge. -/
theorem only_missing_work_fails (settings : Settings) (name : Value) (clock : τ)
    (script : Script (Op τ) (Reply τ)) (state : State τ)
    (reaches : machine.Reaches (State.initial settings name clock script) state) :
    (∀ request fault,
      ((machine.start (.request request) state.store).next = .finish (.error fault) ↔
        fault = .noWork ∧ request.NeedsWork ∧
          Unsupplied (state.trace ++ [.began (.request request) state.stack.length])) ∧
      ((machine.start (.request request) state.store).next = .finish (.error fault) →
        (machine.start (.request request) state.store).store = state.store)) ∧
    (∀ next op fault depth, machine.Records state next (.ended op (.error fault) depth) →
      Failure (State.initial settings name clock script) state next op fault ∧
        op ≠ .request .reset) ∧
    (state.store.debouncer.pending state.store.agenda = true →
      state.store.debouncer.leadingTimestamp.isSome ∧ state.store.debouncer.lastCall.isSome) ∧
    (settings.leading = true → settings.passthrough = false →
      state.store.debouncer.leadingTimestamp.isSome ∧ state.store.debouncer.lastCall.isSome) := by
  have coherent := coherent_of_reaches reaches
  have timed := timed_of_reaches reaches
  refine ⟨?_, ?_, ?_, ?_⟩
  · intro request fault
    exact ⟨request_fails_iff coherent (remembers_of_reaches reaches).work request _,
      store_of_request_fails coherent⟩
  · intro next op fault depth records
    refine ⟨failure_of_records reaches records, ?_⟩
    rintro rfl
    exact reset_succeeds reaches records
  · intro pending
    have held : state.store.debouncer.timer.isSome := coherent.pending_eq.symm.trans pending
    exact ⟨coherent.stamped held, timed.called held⟩
  · intro edge debounced
    rw [← settings_of_reaches reaches] at edge debounced
    exact timed.leading edge debounced

/-- The fault that an advance by a number ends with here. -/
def Moment.failedAdvance? : Moment (Op Rat) (Reply Rat) (Event Rat) → Option FailureKind
  | .ended (.advance (.ok _)) (.error (.raised kind [])) _ => some kind
  | _ => none

theorem Moment.eq_of_failedAdvance? {moment : Moment (Op Rat) (Reply Rat) (Event Rat)}
    {kind : FailureKind} (fails : Moment.failedAdvance? moment = some kind) :
    ∃ delay depth, moment = .ended (.advance (.ok delay)) (.error (.raised kind [])) depth := by
  rw [Moment.failedAdvance?.eq_def] at fails
  split at fails
  · cases fails
    exact ⟨_, _, rfl⟩
  · cases fails

/-- A debouncer is called before it has work, and then with a work that calls it again and fails:
the advance passes that failure on, while the new timer is pending. -/
theorem only_missing_work_fails_of_two :
    let first := State.initial fiveSeconds .null 0
      (.before [.request .callNow, .request (.call (some (failingAgain [0]))), .advance (.ok 7)]
        (.done (.ok .nothing)))
    let state := machine.run 4 first
    machine.Reaches first state ∧
      (machine.start (.request .callNow) first.store).next = .finish (.error .noWork) ∧
      (∃ next delay depth, machine.Records state next
        (.ended (.advance (.ok delay)) (.error (.raised .value [])) depth) ∧
        ∃ before entered cause work now, machine.Reaches first before ∧
          machine.Executes cause work now before entered ∧ machine.Within entered state) ∧
      state.store.debouncer.pending state.store.agenda = true ∧
      state.store.debouncer.leadingTimestamp.isSome ∧ state.store.debouncer.lastCall.isSome := by
  intro first state
  have reaches := Machine.reaches_run machine 4 first
  have pending : state.store.debouncer.pending state.store.agenda = true := by decide +kernel
  have unsupplied :
      Unsupplied (first.trace ++ [.began (.request .callNow) first.stack.length]) := by
    simp [Unsupplied, first, State.initial]
  have atFirst := only_missing_work_fails _ _ _ _ first .refl
  have all := only_missing_work_fails _ _ _ _ state reaches
  have fails : (machine.step? state).any (fun next =>
      (next.trace.drop state.trace.length).any fun moment =>
        decide (Moment.failedAdvance? moment = some .value)) = true := by decide +kernel
  obtain ⟨next, moment, records, found⟩ := Machine.exists_records fails
  obtain ⟨delay, depth, rfl⟩ := Moment.eq_of_failedAdvance? (of_decide_eq_true found)
  refine ⟨reaches, (atFirst.1 .callNow .noWork).1.mpr ⟨rfl, trivial, unsupplied⟩,
    ⟨next, delay, depth, records, ?_⟩, pending, all.2.2.1 pending⟩
  cases (all.2.1 next _ _ _ records).1 with
  | refused same => cases same
  | notANumber same => cases same
  | passedOn earlier executes _ within _ _ =>
      exact ⟨_, _, _, _, _, earlier, executes, within⟩

end DebouncerSession

end Debounce
