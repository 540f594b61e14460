import Debounce.Proofs.Pending

/-!
# Periods

On the trailing edge a period is opened by the call that starts its timer. While the timer is
pending, the debouncer remembers the reading of the clock at that call, and since that call nothing
was executed and no other timer was started.
-/

namespace Debounce

/-- The event tells that a call opens a period. -/
@[simp] def Event.IsOpening {τ : Type} : Event τ → Prop
  | .timerStarted _ _ => True
  | _ => False

/-- No execution begins and no period is opened here. -/
def Moment.IsQuiet {Op R τ : Type} (moment : Moment Op R (Event τ)) : Prop :=
  ∀ event, moment = .event event → ¬ event.IsExecution ∧ ¬ event.IsOpening

theorem Effect.quiet_moments {Op R Store Frame τ : Type}
    {effect : Effect Op R Store Frame (Event τ)}
    (quiet : ∀ event ∈ effect.events, ¬ event.IsExecution ∧ ¬ event.IsOpening) (op : Op)
    (depth : Nat) : ∀ moment ∈ effect.moments op depth, moment.IsQuiet := by
  rintro moment member event rfl
  exact quiet event (Effect.event_mem_moments.mp member)

namespace Debouncer

variable {τ κ ω : Type} [Instant τ] {debouncer : Debouncer τ ω} {agenda : Agenda τ κ}
variable {callback : κ} {request : Request ω} {work? : Option ω} {turn : Turn τ (Agenda τ κ) ω}

/-- A turn that leaves the period open that was open before. -/
structure Continues (debouncer : Debouncer τ ω) (turn : Turn τ (Agenda τ κ) ω) : Prop where
  timer : turn.debouncer.timer = debouncer.timer
  stamp : turn.debouncer.leadingTimestamp = debouncer.leadingTimestamp
  replies : ∃ reply, turn.demand = .reply reply
  quiet : ∀ event ∈ turn.events, ¬ event.IsExecution ∧ ¬ event.IsOpening

/-- A turn that opens a period at a reading of the clock. -/
structure Opens (now : τ) (turn : Turn τ (Agenda τ κ) ω) : Prop where
  stamp : turn.debouncer.leadingTimestamp = some now
  replies : turn.demand = .reply (.ok .nothing)
  events : ∃ name delay, turn.events = [.timerStarted name delay]

/-- A call or a flush that leaves a timer behind leaves the period open, or it is a call that opens
one. -/
theorem Served.continues_or_opens_of_trailing (debounced : debouncer.settings.passthrough = false)
    (edge : debouncer.settings.leading = false) (deliberate : request ≠ .callNow)
    (form : Served debouncer agenda callback request turn) (held : turn.debouncer.timer.isSome) :
    debouncer.Continues turn ∨ Opens agenda.now turn ∧ ∃ work?, request = .call work? := by
  cases form with
  | refusedCall _ | nothingToFlush _ | tooLateToFlush _ _ =>
      exact .inl ⟨rfl, rfl, ⟨_, rfl⟩, by simp⟩
  | passedOn _ through => simp [debounced] at through
  | leading _ _ leads _ => simp [edge] at leads
  | trailing _ _ _ call =>
      cases call with
      | opened _ => exact .inr ⟨⟨rfl, rfl, _, _, rfl⟩, _, rfl⟩
      | overdue _ _ _ => simp [execute] at held
      | overtaken _ _ _ | moved _ _ _ | kept _ _ _ =>
          exact .inl ⟨rfl, rfl, ⟨_, rfl⟩, by simp [recorded]⟩
  | refusedNow | ranNow => exact absurd rfl deliberate
  | reset => simp [Debouncer.reset] at held
  | flushed => cases held

/-- A call that leaves a timer behind continues the period or opens one. -/
theorem Served.continues_or_opens (coherent : debouncer.Coherent agenda)
    (form : Served debouncer agenda callback (.call work?) turn)
    (held : turn.debouncer.timer.isSome) : debouncer.Continues turn ∨ Opens agenda.now turn := by
  have trailing := (coherent.served form).trailing held
  rw [form.settings] at trailing
  have deliberate : Request.call work? ≠ .callNow := by simp
  exact (form.continues_or_opens_of_trailing trailing.1 trailing.2 deliberate held).imp_right
    And.left

end Debouncer

namespace DebouncerSession

variable {τ : Type} [Instant τ]

/-- The operation makes no other request than a call. -/
def Op.isPlain : Op τ → Bool
  | .request (.call _) => true
  | .request _ => false
  | .advance _ | .now | .policy | .text => true

omit [Instant τ] in
theorem Op.call_of_isPlain {request : Request (Work (Op τ) (Reply τ))}
    (plain : (Op.request request).isPlain = true) : ∃ work?, request = .call work? := by
  cases request with
  | call work? => exact ⟨work?, rfl⟩
  | callNow | reset | flush => cases plain

/-- The period in progress was opened by a call at the given reading of the clock: the call started
a timer, and since then no other was started and nothing was executed. -/
def OpenedAt (first state : State τ) (stamp : τ) : Prop :=
  ∃ opening opened work? depth name delay since,
    machine.Reaches first opening ∧ opening.store.agenda.now = stamp ∧
    machine.step? opening = some opened ∧
    opened.trace = opening.trace ++ [.began (.request (.call work?)) depth,
      .event (.timerStarted name delay), .ended (.request (.call work?)) (.ok .nothing) depth] ∧
    machine.Reaches opened state ∧ state.trace = opened.trace ++ since ∧
    ∀ moment ∈ since, moment.IsQuiet

theorem OpenedAt.step {first state next : State τ} {stamp : τ} {moments : History τ}
    (opened : OpenedAt first state stamp) (stepped : machine.step? state = some next)
    (recorded : next.trace = state.trace ++ moments)
    (quiet : ∀ moment ∈ moments, moment.IsQuiet) : OpenedAt first next stamp := by
  obtain ⟨opening, opened, work?, depth, name, delay, since, reaches, now, opens, call, later,
    split, silence⟩ := opened
  refine ⟨opening, opened, work?, depth, name, delay, since ++ moments, reaches, now, opens, call,
    later.step stepped, by rw [recorded, split, List.append_assoc], ?_⟩
  intro moment member
  rcases List.mem_append.mp member with early | late
  · exact silence moment early
  · exact quiet moment late

omit [Instant τ] in
theorem isQuiet_began (op : Op τ) (depth : Nat) :
    (Moment.began op depth : Moment (Op τ) (Reply τ) (Event τ)).IsQuiet :=
  fun _ same => absurd same (by simp)

/-- A section that serves no request and leaves a timer behind continues the period. -/
theorem Passage.continues {store : Store τ} {outcome : Outcome τ}
    (passage : Passage store outcome) (coherent : store.debouncer.Coherent store.agenda)
    (held : outcome.store.debouncer.timer.isSome) :
    outcome.store.debouncer.timer = store.debouncer.timer ∧
      outcome.store.debouncer.leadingTimestamp = store.debouncer.leadingTimestamp ∧
      outcome.events = [] := by
  cases passage with
  | answered | recorded | arrived _ => exact ⟨rfl, rfl, rfl⟩
  | fired found =>
      have fires := (coherent.timer_of_fireNext? found).1
      simp [take, Store.firing, Debouncer.fire_timer _ fires] at held

theorem openedAt_of_call {first middle last : State τ} {work? : Option (Work (Op τ) (Reply τ))}
    {next : Reply τ → Script (Op τ) (Reply τ)} (reaches : machine.Reaches first middle)
    (coherent : middle.store.debouncer.Coherent middle.store.agenda)
    (before : middle.store.debouncer.timer.isSome →
      ∃ stamp, middle.store.debouncer.leadingTimestamp = some stamp ∧ OpenedAt first middle stamp)
    (script : middle.script = .step (.request (.call work?)) next)
    (stepped : machine.step? middle = some last) (held : last.store.debouncer.timer.isSome) :
    ∃ stamp, last.store.debouncer.leadingTimestamp = some stamp ∧ OpenedAt first last stamp := by
  have form := Debouncer.served_serve middle.store.debouncer middle.store.agenda () (.call work?)
  rcases Machine.start_of_step? script stepped with ⟨store, recorded⟩
  have taken : last.store = ⟨_, _⟩ := store.trans Turn.effect_store
  rw [taken] at held ⊢
  rcases form.continues_or_opens coherent held with continues | opens
  · rcases before (continues.timer ▸ held) with ⟨begun, stamped, opened⟩
    refine ⟨begun, continues.stamp.trans stamped, opened.step stepped recorded ?_⟩
    rcases continues.replies with ⟨reply, replies⟩
    have quiet : ∀ event ∈ (start (.request (.call work?)) middle.store).events,
        ¬ event.IsExecution ∧ ¬ event.IsOpening := by
      rw [start, take, Turn.effect_of_reply replies]
      exact continues.quiet
    intro moment member
    rcases List.mem_cons.mp member with rfl | inEffect
    · exact isQuiet_began _ _
    · exact Effect.quiet_moments quiet _ _ moment inEffect
  · rcases opens.events with ⟨name, delay, events⟩
    refine ⟨_, opens.stamp, middle, last, work?, middle.stack.length, name, delay, [], reaches, rfl,
      stepped, recorded.trans ?_, .refl, (List.append_nil _).symm, by simp⟩
    change _ ++ _ :: (start _ _).moments _ _ = _
    rw [start, take, Turn.effect_of_reply opens.replies, Effect.moments, events]
    rfl

/-- In a run of calls and advances a timer that is held stands for a period that was opened by a
call at the instant that the debouncer remembers. -/
theorem openedAt_of_reaches {settings : Settings} {name : Value} {clock : τ}
    {script : Script (Op τ) (Reply τ)} {state : State τ}
    (reaches : machine.Reaches (State.initial settings name clock script) state)
    (plain : ∀ op depth, .began op depth ∈ state.trace → op.isPlain = true)
    (held : state.store.debouncer.timer.isSome) :
    ∃ stamp, state.store.debouncer.leadingTimestamp = some stamp ∧
      OpenedAt (State.initial settings name clock script) state stamp := by
  induction reaches with
  | refl => simp [State.initial, Store.new, Debouncer.new] at held
  | @step middle last reaches stepped ih =>
      have coherent := coherent_of_reaches reaches
      have before := ih fun op depth member =>
        plain op depth ((Machine.step_of_step? stepped).record_grows.subset member)
      cases Machine.step_of_step? stepped with
      | @start op next script =>
          cases asks : Requesting.request? op with
          | some request =>
              obtain rfl := Op.eq_of_request? asks
              obtain ⟨work?, rfl⟩ :=
                Op.call_of_isPlain (plain (.request request) middle.stack.length (by simp))
              exact openedAt_of_call reaches coherent before script stepped held
          | none =>
              simp only [Machine.settle_store] at held ⊢
              have passage := passage_start op middle.store asks
              rcases passage.continues coherent held with ⟨timer, stamp, events⟩
              rcases before (timer ▸ held) with ⟨begun, stamped, opened⟩
              refine ⟨begun, stamp.trans stamped, opened.step stepped
                ((Machine.settle_trace _ _ _ _).trans (List.append_cons _ _ _).symm) ?_⟩
              intro moment member
              rcases List.mem_cons.mp member with rfl | inEffect
              · exact isQuiet_began _ _
              · have none : ∀ event ∈ (start op middle.store).events, ¬ event.IsExecution ∧
                    ¬ event.IsOpening := by simp [events]
                exact Effect.quiet_moments none _ _ moment inEffect
      | ask _ =>
          rcases before held with ⟨stamp, stamped, opened⟩
          exact ⟨stamp, stamped, opened.step stepped (List.append_nil _).symm (by simp)⟩
      | @resume reply op frame next rest script stack =>
          simp only [Machine.settle_store] at held ⊢
          have passage := passage_resume frame reply middle.store
          rcases passage.continues coherent held with ⟨timer, stamp, events⟩
          rcases before (timer ▸ held) with ⟨begun, stamped, opened⟩
          refine ⟨begun, stamp.trans stamped, opened.step stepped (Machine.settle_trace _ _ _ _) ?_⟩
          intro moment member
          have none : ∀ event ∈ (resume frame reply middle.store).events, ¬ event.IsExecution ∧
              ¬ event.IsOpening := by simp [events]
          exact Effect.quiet_moments none _ _ moment member

end DebouncerSession

end Debounce
