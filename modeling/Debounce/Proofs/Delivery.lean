import Debounce.Proofs.History
import Debounce.Proofs.Pending

/-!
# No call is lost

On the trailing edge a call that found work is followed by an execution, or by a pending timer
that will bring one, for as long as nobody resets the debouncer. Every execution runs the work
that was supplied last, and an advance of the clock past the time of the pending timer runs it
once.
-/

namespace Debounce

variable {τ : Type} [Instant τ]

namespace DebouncerSession

/-! ## What is remembered -/

/-- A section that serves no request keeps the promise of an execution or makes it true. -/
theorem Passage.promised {store : Store τ} {outcome : Outcome τ}
    (passage : Passage store outcome) (op : Op τ) (depth : Nat)
    (promised : store.agenda.Promised store.debouncer.timer) :
    outcome.store.agenda.Promised outcome.store.debouncer.timer ∨
      ∃ moment ∈ outcome.moments op depth, moment.IsDelivery := by
  cases passage with
  | answered | recorded => exact .inl promised
  | arrived _ =>
      rcases promised with ⟨id, held, pending⟩
      exact .inl ⟨id, held, pending⟩
  | @fired _ _ id timer agenda _ =>
      exact .inr ((store.firing_executes agenda id timer).delivers (by simp) op depth)

/-- In every state of a run the debouncer knows the work that was supplied last, and on the
trailing edge its timer is pending while a call is owed an execution. -/
theorem remembers_of_reaches {settings : Settings} {name : Value} {clock : τ}
    {script : Script (Op τ) (Reply τ)} {state : State τ}
    (reaches : machine.Reaches (State.initial settings name clock script) state) :
    state.store.debouncer.Remembers Agenda.Promised state.store.agenda state.trace := by
  apply keeps reaches
    (fun store history => store.debouncer.Remembers Agenda.Promised store.agenda history)
  · intro op depth store history other remembers
    refine remembers.append ?_ rfl rfl .inl
    intro moment member
    rw [List.mem_singleton.mp member]
    exact other
  · intro request depth store history remembers
    have form := Debouncer.served_serve store.debouncer store.agenda () request
    simpa [start, take] using remembers.served Agenda.promise form rfl
      (fun _ => Effect.request?_of_mem_moments)
      (fun cause executes ordinary => executes.delivers ordinary _ depth)
  · intro op depth store outcome history passage remembers
    exact remembers.append (fun _ => Effect.request?_of_mem_moments) passage.settings passage.work
      (passage.promised op depth)
  · exact ⟨by simp [State.initial, Store.new, Debouncer.new, latestWork?],
      fun _ _ owed => absurd owed Owed.not_nil⟩

/-! ## Which executions there are -/

/-- The execution runs the work that the debouncer holds, at the reading of the clock. -/
def RunsHeldWork (work : Work (Op τ) (Reply τ)) (now : τ) (store : Store τ) : Prop :=
  store.debouncer.work = some work ∧ now = store.agenda.now

/-- A section reports no execution, or it begins one of the held work. -/
def Honest (outcome : Outcome τ) : Prop :=
  outcome.Silent ∨ ∃ cause work now,
    outcome.Executes cause work now ∧ RunsHeldWork work now outcome.store

section Honest

variable {store : Store τ}

theorem honest_take {turn : Turn τ (Agenda τ Unit) (Work (Op τ) (Reply τ))}
    {frame : Tail τ → Frame τ} {cause : Cause} (executes : turn.Executes cause)
    (supplied : ∃ work, turn.debouncer.work = some work) : Honest (take turn frame) := by
  rcases supplied with ⟨work, held⟩
  exact .inr ⟨cause, work, turn.scheduler.now, executes.effect held, by
    simpa [take, RunsHeldWork] using held⟩

theorem honest_request (coherent : store.debouncer.Coherent store.agenda)
    (request : Request (Work (Op τ) (Reply τ))) : Honest (start (.request request) store) := by
  have form := Debouncer.served_serve store.debouncer store.agenda () request
  rcases form.executes_or_replies with ⟨cause, executes⟩ | replies
  · exact honest_take executes
      (form.work_of_executes executes fun _ held _ => coherent.supplied (by simp [held]))
  · exact .inl replies.silent

theorem Passage.honest (coherent : store.debouncer.Coherent store.agenda) {outcome : Outcome τ}
    (passage : Passage store outcome) : Honest outcome := by
  cases passage with
  | answered | recorded | arrived _ => exact .inl (by simp [Effect.Silent, answer])
  | fired found =>
      have held := (coherent.timer_of_fireNext? found).1
      apply honest_take (store.firing_executes _ _ _)
      simpa [Store.firing] using
        Option.isSome_iff_exists.mp (coherent.supplied (by simp [held]))

end Honest

/-- A step of a run begins an execution of the work supplied last, or records none. -/
theorem executes_or_silent {settings : Settings} {name : Value} {clock : τ}
    {script : Script (Op τ) (Reply τ)} {state next : State τ}
    (reaches : machine.Reaches (State.initial settings name clock script) state)
    (stepped : machine.step? state = some next) :
    (∃ cause work, latestWork? next.trace = some work ∧
        machine.Executes cause work next.store.agenda.now state next) ∨
      ∃ moments, next.trace = state.trace ++ moments ∧
        ∀ moment ∈ moments, ¬ moment.IsExecution := by
  have coherent := coherent_of_reaches reaches
  have started (op : Op τ) (next : Reply τ → Script (Op τ) (Reply τ))
      (_ : state.script = .step op next) : Honest (machine.start op state.store) := by
    cases op with
    | request request => exact honest_request coherent request
    | advance | now | policy | text => exact (passage_start _ _ rfl).honest coherent
  have resumed (frame : Frame τ) (reply : Reply τ) (_ : state.script = .done reply) :
      Honest (machine.resume frame reply state.store) :=
    (passage_resume frame reply state.store).honest coherent
  apply (Machine.executes_or_silent RunsHeldWork started resumed stepped).imp_left
  rintro ⟨cause, work, now, executes, held, rfl⟩
  exact ⟨cause, work, (remembers_of_reaches (reaches.step stepped)).work ▸ held, executes⟩

/-! ## Executions by an advance -/

/-- Without a timer a section that serves no request leaves it so, and begins nothing. -/
theorem Passage.idle {store : Store τ} {outcome : Outcome τ} (passage : Passage store outcome)
    (coherent : store.debouncer.Coherent store.agenda) (free : store.debouncer.timer = none) :
    outcome.store.debouncer.timer = none ∧ outcome.Silent := by
  cases passage with
  | answered | recorded | arrived _ => exact ⟨free, by simp [Effect.Silent, answer]⟩
  | fired found =>
      have held := (coherent.timer_of_fireNext? found).1
      simp [free] at held

/-- Without a timer nothing is executed until something is requested. -/
theorem silent_until_request {first last : State τ} (reaches : machine.Reaches first last)
    (coherent : first.store.debouncer.Coherent first.store.agenda)
    (free : first.store.debouncer.timer = none) {since : History τ}
    (recorded : last.trace = first.trace ++ since)
    (unasked : ∀ moment ∈ since, moment.request? = none) :
    ∀ moment ∈ since, ¬ moment.IsExecution := by
  have split := keeps reaches
    (fun store history => ∃ since, history = first.trace ++ since ∧
      ((∀ moment ∈ since, moment.request? = none) →
        (store.debouncer.Coherent store.agenda ∧ store.debouncer.timer = none) ∧
          ∀ moment ∈ since, ¬ moment.IsExecution))
    ?_ ?_ ?_ ⟨[], by simp, fun _ => ⟨⟨coherent, free⟩, by simp⟩⟩
  · rcases split with ⟨other, same, quiet⟩
    obtain rfl := List.append_cancel_left (same.symm.trans recorded)
    exact (quiet unasked).2
  · rintro op depth store _ other ⟨since, rfl, quiet⟩
    refine ⟨since ++ [.began op depth], by simp, ?_⟩
    intro unasked
    simp only [List.forall_mem_append, List.forall_mem_singleton] at unasked ⊢
    rcases quiet unasked.1 with ⟨idle, silent⟩
    exact ⟨idle, silent, by simp [Moment.IsExecution]⟩
  · rintro request depth store _ ⟨since, rfl, _⟩
    refine ⟨since ++ .began (.request request) depth ::
      (start (.request request) store).moments (.request request) depth, by simp, ?_⟩
    intro unasked
    have absurdly := unasked (.began (.request request) depth) (by simp)
    simp [Moment.request?, Requesting.request?] at absurdly
  · rintro op depth store outcome _ passage ⟨since, rfl, quiet⟩
    refine ⟨since ++ outcome.moments op depth, by simp, ?_⟩
    intro unasked
    simp only [List.forall_mem_append] at unasked ⊢
    rcases quiet unasked.1 with ⟨⟨coherent, free⟩, silent⟩
    rcases passage.idle coherent free with ⟨stillFree, silentNow⟩
    exact ⟨⟨passage.coherent coherent, stillFree⟩, silent, fun moment => silentNow.moments⟩

/-- An advance past the time of the pending timer begins by firing it, which leaves no timer. -/
theorem advance_executes (state : State τ) {delay time : τ}
    {next : Reply τ → Script (Op τ) (Reply τ)}
    (coherent : state.store.debouncer.Coherent state.store.agenda)
    (script : state.script = .step (.advance (.ok delay)) next)
    (status : state.store.debouncer.timerStatus? state.store.agenda = some ⟨true, time⟩)
    (due : time ≤ state.store.agenda.now + delay) :
    ∃ id work fired, state.store.debouncer.timer = some id ∧
      state.store.debouncer.work = some work ∧
      machine.Executes (.timer id) work fired.store.agenda.now state fired ∧
      fired.store.debouncer.Coherent fired.store.agenda ∧
      fired.store.debouncer.timer = none := by
  rcases Option.bind_eq_some_iff.mp status with ⟨place, timer, seen⟩
  rcases Agenda.status?_eq_some.mp seen with ⟨stored, found, active, rfl⟩
  obtain ⟨⟨id, timer, agenda⟩, fires⟩ :=
    Option.ne_none_iff_exists'.mp (Agenda.fireNext?_ne_none found active due)
  have held := (coherent.timer_of_fireNext? fires).1
  rcases Option.isSome_iff_exists.mp (coherent.supplied (by simp [held])) with ⟨work, supplied⟩
  have effect : machine.start (.advance (.ok delay)) state.store =
      take (state.store.firing agenda id timer)
        fun _ => .advancing (state.store.agenda.now + delay) 1 := by
    change sweep _ _ _ = _
    rw [sweep, fires]
    rfl
  have executes : (machine.start (.advance (.ok delay)) state.store).Executes (.timer id) work
      agenda.now := by
    rw [effect]
    exact (state.store.firing_executes agenda id timer).effect (by simpa [Store.firing])
  obtain ⟨fired, executed, store⟩ : ∃ fired,
      machine.Executes (.timer id) work agenda.now state fired ∧
        fired.store = ⟨agenda, (state.store.debouncer.fire agenda id).debouncer⟩ :=
    ⟨_, .of_start script executes, by simp [effect, take, Store.firing]⟩
  refine ⟨id, work, fired, held, supplied, ?_⟩
  rw [store]
  exact ⟨executed, coherent.fire fires, Debouncer.fire_timer agenda held⟩

/-- On the trailing edge no call is lost: in every state of a run, also inside works, each call that
found work is either waited for by the pending timer or was followed by an execution, unless the
debouncer was reset. Executions run the work supplied last. An advance past the time of the
pending timer runs that work, once as long as nothing is requested. -/
theorem no_trailing_call_lost (settings : Settings) (name : Value) (clock : τ)
    (script : Script (Op τ) (Reply τ)) (state : State τ)
    (debounced : settings.passthrough = false) (edge : settings.leading = false)
    (reaches : machine.Reaches (State.initial settings name clock script) state) :
    (∀ before work? depth after,
      state.trace = before ++ .began (.request (.call work?)) depth :: after →
      latestWork? (before ++ [.began (.request (.call work?)) depth]) ≠ none →
      (∀ moment ∈ after, ¬ moment.IsReset) →
      state.store.debouncer.pending state.store.agenda = true ∨
        ∃ moment ∈ after, moment.IsDelivery) ∧
    (∀ next, machine.step? state = some next →
      (∃ cause work, latestWork? next.trace = some work ∧
        machine.Executes cause work next.store.agenda.now state next) ∨
      ∃ moments, next.trace = state.trace ++ moments ∧
        ∀ moment ∈ moments, ¬ moment.IsExecution) ∧
    (state.store.debouncer.pending state.store.agenda = true →
      ∃ time, state.store.debouncer.timerStatus? state.store.agenda = some ⟨true, time⟩ ∧
        ∀ delay next, time ≤ state.store.agenda.now + delay →
          ∃ id work fired, latestWork? state.trace = some work ∧
            machine.Executes (.timer id) work fired.store.agenda.now
              { state with script := .step (.advance (.ok delay)) next } fired ∧
            ∀ last since, machine.Reaches fired last → last.trace = fired.trace ++ since →
              (∀ moment ∈ since, moment.request? = none) →
                ∀ moment ∈ since, ¬ moment.IsExecution) := by
  have coherent := coherent_of_reaches reaches
  have remembers := remembers_of_reaches reaches
  refine ⟨?_, fun next => executes_or_silent reaches, ?_⟩
  · intro before work? depth after recorded found unreset
    rcases Owed.of_call recorded ⟨work?, rfl⟩ found unreset with owed | delivered
    · have same := settings_of_reaches reaches
      exact .inl (Debouncer.pending_iff.mpr
        (remembers.promised (same ▸ debounced) (same ▸ edge) owed))
    · exact .inr delivered
  · intro pending
    rcases Debouncer.pending_iff.mp pending with ⟨id, held, isPending⟩
    rcases Agenda.isPending_iff.mp isPending with ⟨time, status⟩
    have seen : state.store.debouncer.timerStatus? state.store.agenda = some ⟨true, time⟩ := by
      simpa [Debouncer.timerStatus?, held] using status
    refine ⟨time, seen, ?_⟩
    intro delay next due
    obtain ⟨id, work, fired, _, supplied, executes, coherentAfter, free⟩ :=
      advance_executes { state with script := .step (.advance (.ok delay)) next } coherent rfl seen
        due
    refine ⟨id, work, fired, remembers.work ▸ supplied, executes, ?_⟩
    intro last since reachesLast recorded
    exact silent_until_request reachesLast coherentAfter free recorded

/-- Of two works supplied before the timer is due, the advance runs the second one. -/
theorem no_trailing_call_lost_of_two :
    let first := State.initial fiveSeconds .null 0
      (.before
        [.request (.call (some (failingAgain [0]))), .request (.call (some (failingAgain [1])))]
        (.done (.ok .nothing)))
    let state := machine.run 2 first
    fiveSeconds.passthrough = false ∧ fiveSeconds.leading = false ∧
      machine.Reaches first state ∧
      state.store.debouncer.pending state.store.agenda = true ∧
      ∃ id work fired, work.id = [1] ∧
        machine.Executes (.timer id) work fired.store.agenda.now
          { state with script := .perform (.advance (.ok 7)) } fired := by
  intro first state
  have debounced : fiveSeconds.passthrough = false := by decide +kernel
  have reaches := Machine.reaches_run machine 2 first
  have pending : state.store.debouncer.pending state.store.agenda = true := by decide +kernel
  have latest : (latestWork? state.trace).map Work.id = some [1] := by decide +kernel
  have due : (state.store.debouncer.timerStatus? state.store.agenda).all (fun status =>
      decide (status.executionTime ≤ state.store.agenda.now + 7)) = true := by decide +kernel
  obtain ⟨time, seen, advance⟩ :=
    (no_trailing_call_lost _ _ _ _ state debounced rfl reaches).2.2 pending
  rw [seen] at due
  rcases advance 7 .done (by simpa using due) with ⟨id, work, fired, supplied, executes, _⟩
  rw [supplied] at latest
  exact ⟨debounced, rfl, reaches, pending, id, work, fired, Option.some.inj latest, executes⟩

end DebouncerSession

end Debounce
