import Debounce.Proofs.Agenda
import Debounce.Proofs.Execution

/-!
# What a history means to a debouncer

The record of a run tells which work was supplied last, and whether a call still waits for an
execution: a call that found work is owed one until the debouncer runs its work for some other
reason than `callNow`, or is reset. A timer that has not fired yet, or has fired and not run its
callback yet, is how a debouncer on the trailing edge remembers what it owes.
-/

namespace Debounce

/-- Operations among which there are requests to a debouncer. -/
class Requesting (Op : Type) (R : outParam Type) where
  request? : Op → Option (Request (Work Op R))

variable {Op R τ : Type} [Requesting Op R]

/-- An invariant is kept by requests and by what the machine does otherwise. -/
theorem Machine.Reaches.keeps_requests {Store Frame Event : Type}
    {machine : Machine Op R Store Frame Event} {first last : Config Op R Store Frame Event}
    (reaches : machine.Reaches first last)
    {Passage : Store → Effect Op R Store Frame Event → Prop}
    (started : ∀ op store, Requesting.request? op = none → Passage store (machine.start op store))
    (resumed : ∀ frame reply store, Passage store (machine.resume frame reply store))
    (Inv : Store → List (Moment Op R Event) → Prop)
    (began : ∀ op depth store history, Requesting.request? op = none → Inv store history →
      Inv store (history ++ [.began op depth]))
    (served : ∀ op request depth store history, Requesting.request? op = some request →
      Inv store history → Inv (machine.start op store).store
        (history ++ .began op depth :: (machine.start op store).moments op depth))
    (passed : ∀ op depth store effect history, Passage store effect → Inv store history →
      Inv effect.store (history ++ effect.moments op depth))
    (initial : Inv first.store first.trace) : Inv last.store last.trace := by
  refine reaches.keeps Inv ?_ ?_ initial
  · intro op depth store history kept
    cases asks : Requesting.request? op with
    | some request => exact served op request depth store history asks kept
    | none =>
        rw [List.append_cons]
        exact passed op depth store _ _ (started op store asks)
          (began op depth store history asks kept)
  · intro op frame reply depth store history kept
    exact passed op depth store _ history (resumed frame reply store) kept

namespace Moment

variable {Event : Type}

/-- The request that begins at a moment. -/
def request? : Moment Op R Event → Option (Request (Work Op R))
  | .began op _ => Requesting.request? op
  | .event _ | .ended _ _ _ => none

/-- A call begins. -/
def IsCall (moment : Moment Op R Event) : Prop := ∃ work?, moment.request? = some (.call work?)

/-- A reset begins. -/
def IsReset (moment : Moment Op R Event) : Prop := moment.request? = some .reset

omit [Requesting Op R] in
/-- The debouncer runs its work, for some other reason than `callNow`. -/
def IsDelivery (moment : Moment Op R (Debounce.Event τ)) : Prop :=
  ∃ name cause, moment = .event (.executed name cause) ∧ cause ≠ .callNow

end Moment

section Events

variable {Event : Type}

/-- The work that the calls of a history supplied last. -/
def latestWork? (history : List (Moment Op R Event)) : Option (Work Op R) :=
  history.foldl (fun work? moment => (moment.request?.bind Request.supplied?).or work?) none

theorem latestWork?_concat (history : List (Moment Op R Event)) (moment : Moment Op R Event) :
    latestWork? (history ++ [moment]) =
      (moment.request?.bind Request.supplied?).or (latestWork? history) := by
  simp [latestWork?]

theorem latestWork?_append (history : List (Moment Op R Event))
    {moments : List (Moment Op R Event)}
    (silent : ∀ moment ∈ moments, moment.request? = none) :
    latestWork? (history ++ moments) = latestWork? history := by
  induction moments generalizing history with
  | nil => simp
  | cons moment rest ih =>
      rw [List.append_cons, ih _ fun other member => silent other (List.mem_cons_of_mem _ member),
        latestWork?_concat, silent moment List.mem_cons_self]
      rfl

/-- Nothing but the beginning of an operation is a request. -/
theorem Effect.request?_of_mem_moments {Store Frame : Type}
    {effect : Effect Op R Store Frame Event} {op : Op} {depth : Nat} {moment : Moment Op R Event}
    (member : moment ∈ effect.moments op depth) : moment.request? = none := by
  cases moment with
  | began other level => exact absurd member Effect.began_not_mem_moments
  | event | ended => rfl

end Events

/-- A call that found work is owed an execution: since it began there was neither a delivery nor a
reset. -/
def Owed (history : List (Moment Op R (Event τ))) : Prop :=
  ∃ before call after, history = before ++ call :: after ∧ call.IsCall ∧
    latestWork? (before ++ [call]) ≠ none ∧
    ∀ moment ∈ after, ¬ moment.IsReset ∧ ¬ moment.IsDelivery

namespace Owed

variable {history moments : List (Moment Op R (Event τ))} {moment : Moment Op R (Event τ)}

theorem not_nil : ¬ Owed ([] : List (Moment Op R (Event τ))) := by
  rintro ⟨before, call, after, split, _⟩
  simp at split

/-- What is owed was owed before, unless it is owed to the moment itself. -/
theorem of_concat (owed : Owed (history ++ [moment])) :
    moment.IsCall ∧ latestWork? (history ++ [moment]) ≠ none ∨
      Owed history ∧ ¬ moment.IsReset ∧ ¬ moment.IsDelivery := by
  rcases owed with ⟨before, call, after, split, isCall, found, quiet⟩
  rcases List.eq_nil_or_concat after with rfl | ⟨rest, last, rfl⟩
  · rcases List.append_inj' split rfl with ⟨rfl, same⟩
    cases same
    exact .inl ⟨isCall, found⟩
  · rw [List.concat_eq_append, ← List.cons_append, ← List.append_assoc] at split
    rcases List.append_inj' split rfl with ⟨rfl, same⟩
    cases same
    refine .inr ⟨⟨before, call, rest, rfl, isCall, found, ?_⟩, ?_⟩
    · intro other member
      exact quiet other (by simp [member])
    · exact quiet moment (by simp)

/-- Moments that request nothing only ever pay back what is owed. -/
theorem of_append (silent : ∀ moment ∈ moments, moment.request? = none)
    (owed : Owed (history ++ moments)) :
    Owed history ∧ ∀ moment ∈ moments, ¬ moment.IsDelivery := by
  induction moments generalizing history with
  | nil => exact ⟨by simpa using owed, by simp⟩
  | cons moment rest ih =>
      rw [List.append_cons] at owed
      obtain ⟨earlier, undelivered⟩ :=
        ih (fun other member => silent other (List.mem_cons_of_mem _ member)) owed
      rcases earlier.of_concat with ⟨⟨work?, call⟩, _⟩ | ⟨before, _, withheld⟩
      · simp [silent moment List.mem_cons_self] at call
      · exact ⟨before, by simpa using ⟨withheld, undelivered⟩⟩

/-- A call that found work is owed an execution if there was neither a reset nor a delivery. -/
theorem of_call {before after : List (Moment Op R (Event τ))} {call : Moment Op R (Event τ)}
    (recorded : history = before ++ call :: after) (isCall : call.IsCall)
    (found : latestWork? (before ++ [call]) ≠ none) (unreset : ∀ moment ∈ after, ¬ moment.IsReset) :
    Owed history ∨ ∃ moment ∈ after, moment.IsDelivery := by
  by_cases delivered : ∃ moment ∈ after, moment.IsDelivery
  · exact .inr delivered
  · refine .inl ⟨before, call, after, recorded, isCall, found, ?_⟩
    intro moment member
    exact ⟨unreset moment member, fun paid => delivered ⟨moment, member, paid⟩⟩

end Owed

/-- A turn that asks for an execution records a delivery, unless `callNow` is the cause. -/
theorem Turn.Executes.delivers {σ κ Op Store Frame : Type} [Scheduler σ τ κ]
    {turn : Turn τ σ (Work Op (Reply τ))} {context : Fields} {frame : Tail τ → Frame}
    {put : Debouncer τ (Work Op (Reply τ)) → σ → Store} {cause : Cause}
    (executes : turn.Executes cause) (ordinary : cause ≠ .callNow) (op : Op) (depth : Nat) :
    ∃ moment ∈ (turn.effect context frame put).moments op depth, moment.IsDelivery := by
  rcases executes.events with ⟨earlier, events, _⟩
  refine ⟨.event (.executed turn.debouncer.name cause), ?_, _, _, rfl, ordinary⟩
  exact Effect.event_mem_moments.mpr (events_subset_effect (by simp [events]))

/-! ## Promises of a scheduler -/

namespace Debouncer

variable {σ κ ω : Type} [Instant τ] [Scheduler σ τ κ]

/-- A scheduler's promise, on account of the timer that is held, that an execution is still to
come. It is given with a new timer and with an active one, and it outlives a refused cancellation
and a move. -/
structure Promise (promised : Option TimerId → σ → Prop) : Prop where
  scheduled : ∀ (scheduler : σ) (delay : τ) (callback : κ),
    promised (some (Scheduler.schedule scheduler delay callback).1)
      (Scheduler.schedule scheduler delay callback).2
  active : ∀ (scheduler : σ) (id : TimerId) (time : τ),
    Scheduler.status? scheduler id = some ⟨true, time⟩ → promised (some id) scheduler
  refused : ∀ (scheduler : σ) (id : TimerId), promised (some id) scheduler →
    (Scheduler.cancel scheduler id).1 = false → promised (some id) (Scheduler.cancel scheduler id).2
  moved : ∀ (scheduler : σ) (id : TimerId) (time : τ), promised (some id) scheduler →
    promised (some id) (Scheduler.reschedule scheduler id time)

variable {promised : Option TimerId → σ → Prop} {debouncer : Debouncer τ ω} {scheduler : σ}
variable {callback : κ} {request : Request ω} {turn : Turn τ σ ω} {now : τ}

theorem TrailingCall.keeps_promise (promise : Promise promised)
    (form : TrailingCall debouncer scheduler callback now turn) :
    promised turn.debouncer.timer turn.scheduler ∨ turn.Executes .call := by
  cases form with
  | opened _ => exact .inl (promise.scheduled _ _ _)
  | overdue _ _ _ => exact .inr (execute_executes _ _)
  | overtaken awaits _ refused =>
      have active := promise.active _ _ _ awaits.status
      exact .inl (awaits.timer ▸ promise.refused _ _ active refused)
  | moved awaits _ _ =>
      have active := promise.active _ _ _ awaits.status
      exact .inl (awaits.timer ▸ promise.moved _ _ _ active)
  | kept awaits _ _ => exact .inl (awaits.timer ▸ promise.active _ _ _ awaits.status)

/-- On the trailing edge a call that finds work leaves a promise behind or runs the work, and so
does every other request but a reset if there was a promise before. -/
theorem Served.keeps_promise (promise : Promise promised)
    (debounced : debouncer.settings.passthrough = false)
    (edge : debouncer.settings.leading = false)
    (form : Served debouncer scheduler callback request turn) (kept : request ≠ .reset)
    (before : (∃ work?, request = .call work?) ∧ turn.debouncer.work ≠ none ∨
      promised debouncer.timer scheduler) :
    promised turn.debouncer.timer turn.scheduler ∨
      ∃ cause, turn.Executes cause ∧ cause ≠ .callNow := by
  cases form with
  | refusedCall absent => exact .inl (before.resolve_left fun ⟨_, found⟩ => found absent)
  | passedOn _ through => simp [debounced] at through
  | leading _ _ leads _ => simp [edge] at leads
  | trailing _ _ _ call =>
      exact (call.keeps_promise promise).imp_right fun executes => ⟨.call, executes, by simp⟩
  | refusedNow _ | ranNow _ | nothingToFlush _ => exact .inl (before.resolve_left (by simp))
  | reset => exact absurd rfl kept
  | flushed _ _ => exact .inr ⟨.flush, execute_executes _ _, by simp⟩
  | tooLateToFlush held refused =>
      have promisedBefore := before.resolve_left (by simp)
      rw [held] at promisedBefore
      exact .inl (held ▸ promise.refused _ _ promisedBefore refused)

end Debouncer

section Agenda

variable {κ : Type}

/-- A pending timer promises an execution. -/
def Agenda.Promised (held : Option TimerId) (agenda : Agenda τ κ) : Prop :=
  ∃ id, held = some id ∧ agenda.isPending id = true

theorem Agenda.promise [Instant τ] : Debouncer.Promise (Agenda.Promised (τ := τ) (κ := κ)) where
  scheduled agenda delay callback := by
    refine ⟨_, rfl, ?_⟩
    change (agenda.add _ callback).2.isPending agenda.timers.length = true
    simp [isPending_add]
  active agenda id time status := ⟨id, rfl, isPending_iff.mpr ⟨time, status⟩⟩
  refused agenda id promised refused := by
    rcases promised with ⟨_, same, pending⟩
    cases same
    change (agenda.cancel id).1 = false at refused
    simp [cancel_outcome, pending] at refused
  moved agenda id time promised := by
    rcases promised with ⟨_, same, pending⟩
    cases same
    exact ⟨id, rfl, (isPending_reschedule agenda id id time).trans pending⟩

/-- A debouncer is pending when its timer promises an execution. -/
theorem Debouncer.pending_iff {ω : Type} [Instant τ] {debouncer : Debouncer τ ω}
    {agenda : Agenda τ κ} :
    debouncer.pending agenda = true ↔ agenda.Promised debouncer.timer := by
  simp only [pending, timerStatus?, Option.any_eq_true, Option.bind_eq_some_iff, Agenda.Promised,
    Agenda.isPending_iff]
  constructor
  · rintro ⟨⟨active, time⟩, ⟨id, held, status⟩, isActive⟩
    exact ⟨id, held, time, isActive ▸ status⟩
  · rintro ⟨id, held, time, status⟩
    exact ⟨⟨true, time⟩, ⟨id, held, status⟩, rfl⟩

end Agenda

/-! ## What a debouncer knows of its history -/

section Remembers

variable {σ : Type}

/-- A debouncer knows the work that was supplied last, and on the trailing edge there is a promise
of what it owes. -/
structure Debouncer.Remembers (promised : Option TimerId → σ → Prop)
    (debouncer : Debouncer τ (Work Op R)) (scheduler : σ)
    (history : List (Moment Op R (Event τ))) : Prop where
  work : debouncer.work = latestWork? history
  promised : debouncer.settings.passthrough = false → debouncer.settings.leading = false →
    Owed history → promised debouncer.timer scheduler

variable {promised : Option TimerId → σ → Prop} {debouncer next : Debouncer τ (Work Op R)}
variable {scheduler later : σ} {history moments : List (Moment Op R (Event τ))}

namespace Debouncer.Remembers

/-- The scheduler may do anything that keeps the promise. -/
theorem mono (remembers : debouncer.Remembers promised scheduler history)
    (kept : promised debouncer.timer scheduler → promised debouncer.timer later) :
    debouncer.Remembers promised later history :=
  ⟨remembers.work, fun debounced edge owed => kept (remembers.promised debounced edge owed)⟩

/-- Where nothing is requested, a promise has to be kept or the work has to run. -/
theorem append (remembers : debouncer.Remembers promised scheduler history)
    (silent : ∀ moment ∈ moments, moment.request? = none)
    (settings : next.settings = debouncer.settings) (work : next.work = debouncer.work)
    (kept : promised debouncer.timer scheduler →
      promised next.timer later ∨ ∃ moment ∈ moments, moment.IsDelivery) :
    next.Remembers promised later (history ++ moments) := by
  constructor
  · rw [work, latestWork?_append history silent, remembers.work]
  · intro debounced edge owed
    rw [settings] at debounced edge
    rcases owed.of_append silent with ⟨earlier, undelivered⟩
    rcases kept (remembers.promised debounced edge earlier) with promised | ⟨moment, member, paid⟩
    · exact promised
    · exact absurd paid (undelivered moment member)

variable {κ : Type} [Instant τ] [Scheduler σ τ κ] {callback : κ} {request : Request (Work Op R)}
variable {turn : Turn τ σ (Work Op R)} {op : Op} {depth : Nat}

/-- A served request is remembered, if an execution that it asks for is recorded. -/
theorem served (remembers : debouncer.Remembers promised scheduler history)
    (promise : Promise promised) (form : Served debouncer scheduler callback request turn)
    (asks : Requesting.request? op = some request)
    (silent : ∀ moment ∈ moments, moment.request? = none)
    (reported : ∀ cause, turn.Executes cause → cause ≠ .callNow →
      ∃ moment ∈ moments, moment.IsDelivery) :
    turn.debouncer.Remembers promised turn.scheduler (history ++ .began op depth :: moments) := by
  have began : (Moment.began op depth : Moment Op R (Event τ)).request? = some request := asks
  have supplied : turn.debouncer.work = latestWork? (history ++ [.began op depth]) := by
    rw [form.work, remembers.work, latestWork?_concat, began]
    rfl
  rw [List.append_cons]
  constructor
  · exact supplied.trans (latestWork?_append _ silent).symm
  intro debounced edge owed
  rw [form.settings] at debounced edge
  rcases owed.of_append silent with ⟨owedNow, undelivered⟩
  have before : (∃ work?, request = .call work?) ∧ turn.debouncer.work ≠ none ∨
      promised debouncer.timer scheduler ∧ request ≠ .reset := by
    rcases owedNow.of_concat with ⟨⟨work?, call⟩, found⟩ | ⟨earlier, kept, _⟩
    · rw [began] at call
      exact .inl ⟨⟨work?, Option.some.inj call⟩, supplied ▸ found⟩
    · refine .inr ⟨remembers.promised debounced edge earlier, fun same => kept ?_⟩
      rw [Moment.IsReset, began, same]
  have kept : request ≠ .reset := by
    rcases before with ⟨⟨_, rfl⟩, _⟩ | ⟨_, kept⟩
    · simp
    · exact kept
  rcases form.keeps_promise promise debounced edge kept (before.imp_right And.left) with
    promised | ⟨cause, executes, ordinary⟩
  · exact promised
  · rcases reported cause executes ordinary with ⟨moment, member, paid⟩
    exact absurd paid (undelivered moment member)

end Debouncer.Remembers

end Remembers

end Debounce
