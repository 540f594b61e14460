import Debounce.Proofs.Race

/-!
# Timers that fire too late or too early

However timers begin to fire while a debouncer acts, and whenever and in whatever order their
callbacks run, the callback of an older timer leaves a newer one alone, and a call that found work
is never forgotten.
-/

namespace Debounce.RaceSession

variable {τ : Type} [Instant τ]

/-- What a section of an operation does that serves no request. -/
inductive Passage (store : Store τ) : Outcome τ → Prop where
  | answered {reply : Reply τ} : Passage store (answer store reply)
  | recorded {call : τ} {reply : Reply τ} :
      Passage store
        (answer { store with debouncer := { store.debouncer with lastCall := some call } } reply)
  | began {id : TimerId} {reply : Reply τ} :
      Passage store (answer { store with race := store.race.begin id } reply)
  | called {id : TimerId} :
      id ∈ store.race.waiting →
      Passage store (take (store.debouncer.fire (store.race.leave id) id) fun _ => .firing)
  | clockSet {time : τ} {reply : Reply τ} :
      Passage store
        (answer
          { store with
            race := { store.race with agenda := { store.race.agenda with now := time } } }
          reply)

theorem passage_start (op : Op τ) (store : Store τ) (other : Requesting.request? op = none) :
    Passage store (start op store) := by
  cases op with
  | request request overtaking => simp [Requesting.request?] at other
  | begin id => exact .began
  | callback id =>
      rw [start]
      split
      · next waits => exact .called waits
      · next gone => exact .answered
  | setClock time => exact .clockSet

theorem passage_resume (frame : Frame τ) (reply : Reply τ) (store : Store τ) :
    Passage store (resume frame reply store) := by
  cases frame with
  | serving tail =>
      cases tail with
      | passOn => exact .answered
      | record call =>
          cases reply with
          | error fault => exact .answered
          | ok value => exact .recorded
      | flushed =>
          cases reply with
          | error fault => exact .answered
          | ok value => exact .answered
  | firing =>
      cases reply with
      | error fault => exact .answered
      | ok value => exact .answered

/-- An invariant of a session is kept by requests and by everything else. -/
theorem keeps {first last : State τ} (reaches : machine.Reaches first last)
    (Inv : Store τ → History τ → Prop)
    (began : ∀ op depth store history, Requesting.request? op = none → Inv store history →
      Inv store (history ++ [.began op depth]))
    (served : ∀ request overtaking depth store history, Inv store history →
      Inv (start (.request request overtaking) store).store
        (history ++ .began (.request request overtaking) depth ::
          (start (.request request overtaking) store).moments (.request request overtaking) depth))
    (passed : ∀ op depth store outcome history, Passage store outcome → Inv store history →
      Inv outcome.store (history ++ outcome.moments op depth))
    (initial : Inv first.store first.trace) : Inv last.store last.trace := by
  refine reaches.keeps_requests passage_start passage_resume Inv began ?_ passed initial
  intro op request depth store history asks kept
  cases op with
  | request request overtaking => exact served request overtaking depth store history kept
  | begin | callback | setClock => simp [Requesting.request?] at asks

/-! ## What is remembered -/

namespace Passage

variable {store : Store τ} {outcome : Outcome τ}

theorem settings (passage : Passage store outcome) :
    outcome.store.debouncer.settings = store.debouncer.settings := by
  cases passage with
  | answered | recorded | began | clockSet => rfl
  | called _ => simp [take]

theorem work (passage : Passage store outcome) :
    outcome.store.debouncer.work = store.debouncer.work := by
  cases passage with
  | answered | recorded | began | clockSet => rfl
  | called _ => simp [take]

/-- A section that serves no request keeps the promise of an execution or makes it true. -/
theorem promised (passage : Passage store outcome) (op : Op τ) (depth : Nat)
    (promised : store.race.Promised store.debouncer.timer) :
    outcome.store.race.Promised outcome.store.debouncer.timer ∨
      ∃ moment ∈ outcome.moments op depth, moment.IsDelivery := by
  cases passage with
  | answered | recorded | clockSet => exact .inl promised
  | began => exact .inl (Race.promised_begin _ promised)
  | called _ => exact .inr ((Debouncer.fire_executes _).delivers (by simp) op depth)

end Passage

/-- The policy of the debouncer is the one it was made with. -/
theorem settings_of_reaches {settings : Settings} {name : Value} {clock : τ}
    {script : Script (Op τ) (Reply τ)} {state : State τ}
    (reaches : machine.Reaches (State.initial settings name clock script) state) :
    state.store.debouncer.settings = settings := by
  refine keeps reaches (fun store _ => store.debouncer.settings = settings)
    (fun _ _ _ _ _ same => same) ?_ (fun _ _ _ _ _ passage => passage.settings.trans) ?_
  · intro request overtaking _ store _ same
    simpa [start, take] using (Debouncer.served_serve store.debouncer
      (store.race.overtakenBy overtaking) () request).settings.trans same
  · simp [State.initial, Debouncer.new]

/-- In every state of a run the debouncer knows the work that was supplied last, and on the
trailing edge a timer is pending or a callback waits while a call is owed an execution. -/
theorem remembers_of_reaches {settings : Settings} {name : Value} {clock : τ}
    {script : Script (Op τ) (Reply τ)} {state : State τ}
    (reaches : machine.Reaches (State.initial settings name clock script) state) :
    state.store.debouncer.Remembers Race.Promised state.store.race state.trace := by
  apply keeps reaches
    (fun store history => store.debouncer.Remembers Race.Promised store.race history)
  · intro op depth store history other remembers
    refine remembers.append ?_ rfl rfl .inl
    intro moment member
    rw [List.mem_singleton.mp member]
    exact other
  · intro request overtaking depth store history remembers
    have form := Debouncer.served_serve store.debouncer (store.race.overtakenBy overtaking) ()
      request
    have asks : Requesting.request? (Op.request request overtaking) = some request := rfl
    have before : store.debouncer.Remembers Race.Promised
        (store.race.overtakenBy overtaking) history := remembers.mono id
    simp only [start, take, Turn.effect_store]
    exact (before.served Race.promise form asks (fun _ => Effect.request?_of_mem_moments)
      fun cause executes ordinary => executes.delivers ordinary _ depth).mono Race.promised_settle
  · intro op depth store outcome history passage remembers
    exact remembers.append (fun _ => Effect.request?_of_mem_moments) passage.settings passage.work
      (passage.promised op depth)
  · exact ⟨by simp [State.initial, Debouncer.new, latestWork?],
      fun _ _ owed => absurd owed Owed.not_nil⟩

/-! ## Which executions there are -/

/-- Without work a request sets no timer. -/
theorem idle_of_served {debouncer : Debouncer τ (Work (Op τ) (Reply τ))} {race : Race τ}
    {request : Request (Work (Op τ) (Reply τ))} {turn : Turn τ (Race τ) (Work (Op τ) (Reply τ))}
    (form : debouncer.Served race () request turn) (absent : turn.debouncer.work = none)
    (idle : race.Idle) : turn.scheduler.Idle := by
  cases form with
  | refusedCall _ | passedOn _ _ | refusedNow _ | ranNow _ | nothingToFlush _ => exact idle
  | leading _ _ _ call => cases call <;> exact idle
  | trailing _ _ _ call => cases call <;> simp [Debouncer.startTimer, Debouncer.recorded,
      Debouncer.execute] at absent
  | reset =>
      simp only [Debouncer.reset]
      split
      · exact idle
      · exact (Race.cancel_of_idle idle _).2
  | flushed _ cancelled => simp [(Race.cancel_of_idle idle _).1] at cancelled
  | tooLateToFlush _ _ => exact (Race.cancel_of_idle idle _).2

/-- As long as no work was supplied no timer is set. -/
theorem idle_of_reaches {settings : Settings} {name : Value} {clock : τ}
    {script : Script (Op τ) (Reply τ)} {state : State τ}
    (reaches : machine.Reaches (State.initial settings name clock script) state) :
    state.store.debouncer.work = none → state.store.race.Idle := by
  refine keeps reaches (fun store _ => store.debouncer.work = none → store.race.Idle)
    (fun _ _ _ _ _ idle => idle) ?_ ?_ (fun _ => ⟨rfl, rfl⟩)
  · intro request overtaking depth store history idle absent
    have form := Debouncer.served_serve store.debouncer (store.race.overtakenBy overtaking) ()
      request
    simp only [start, take, Turn.effect_store] at absent ⊢
    have unsupplied : store.debouncer.work = none :=
      (Option.or_eq_none_iff.mp (form.work.symm.trans absent)).2
    exact Race.idle_settle (idle_of_served form absent (idle unsupplied))
  · intro op depth store outcome history passage idle absent
    rcases idle (passage.work.symm.trans absent) with ⟨unset, quiet⟩
    cases passage with
    | answered | recorded | clockSet => exact ⟨unset, quiet⟩
    | began => simp [Race.Idle, Race.begin, Agenda.claim, Agenda.update, answer, unset, quiet]
    | called waits => simp [quiet] at waits

/-- The execution runs the work that the debouncer holds, at the reading of the clock. -/
def RunsHeldWork (work : Work (Op τ) (Reply τ)) (now : τ) (store : Store τ) : Prop :=
  store.debouncer.work = some work ∧ now = store.race.agenda.now

/-- A section reports no execution, or it begins one of the held work. -/
def Honest (outcome : Outcome τ) : Prop :=
  outcome.Silent ∨ ∃ cause work now,
    outcome.Executes cause work now ∧ RunsHeldWork work now outcome.store

section Honest

variable {store : Store τ}

theorem honest_take {turn : Turn τ (Race τ) (Work (Op τ) (Reply τ))} {frame : Tail τ → Frame τ}
    {cause : Cause} (executes : turn.Executes cause)
    (supplied : ∃ work, turn.debouncer.work = some work) : Honest (take turn frame) := by
  rcases supplied with ⟨work, held⟩
  refine .inr ⟨cause, work, turn.scheduler.agenda.now, executes.effect held, ?_⟩
  simpa [take, RunsHeldWork] using held

theorem honest_request (idle : store.debouncer.work = none → store.race.Idle)
    (request : Request (Work (Op τ) (Reply τ))) (overtaking : List TimerId) :
    Honest (start (.request request overtaking) store) := by
  have form := Debouncer.served_serve store.debouncer (store.race.overtakenBy overtaking) ()
    request
  rcases form.executes_or_replies with ⟨cause, executes⟩ | replies
  · apply honest_take executes (form.work_of_executes executes ?_)
    intro id _ cancelled
    cases held : store.debouncer.work with
    | some work => rfl
    | none =>
        have unset : (store.race.overtakenBy overtaking).Idle := idle held
        simp [(Race.cancel_of_idle unset id).1] at cancelled
  · exact .inl replies.silent

theorem Passage.honest (idle : store.debouncer.work = none → store.race.Idle)
    {outcome : Outcome τ} (passage : Passage store outcome) : Honest outcome := by
  cases passage with
  | answered | recorded | began | clockSet => exact .inl (by simp [Effect.Silent, answer])
  | called waits =>
      apply honest_take (Debouncer.fire_executes _)
      cases held : store.debouncer.work with
      | none => simp [(idle held).2] at waits
      | some work => exact ⟨work, by simp [held]⟩

end Honest

/-- A step of a run begins an execution of the work supplied last, or records none. -/
theorem executes_or_silent {settings : Settings} {name : Value} {clock : τ}
    {script : Script (Op τ) (Reply τ)} {state next : State τ}
    (reaches : machine.Reaches (State.initial settings name clock script) state)
    (stepped : machine.step? state = some next) :
    (∃ cause work, latestWork? next.trace = some work ∧
        machine.Executes cause work next.store.race.agenda.now state next) ∨
      ∃ moments, next.trace = state.trace ++ moments ∧
        ∀ moment ∈ moments, ¬ moment.IsExecution := by
  have idle := idle_of_reaches reaches
  have started (op : Op τ) (next : Reply τ → Script (Op τ) (Reply τ))
      (_ : state.script = .step op next) : Honest (machine.start op state.store) := by
    cases op with
    | request request overtaking => exact honest_request idle request overtaking
    | begin | callback | setClock => exact (passage_start _ _ rfl).honest idle
  have resumed (frame : Frame τ) (reply : Reply τ) (_ : state.script = .done reply) :
      Honest (machine.resume frame reply state.store) :=
    (passage_resume frame reply state.store).honest idle
  apply (Machine.executes_or_silent RunsHeldWork started resumed stepped).imp_left
  rintro ⟨cause, work, now, executes, held, rfl⟩
  exact ⟨cause, work, (remembers_of_reaches (reaches.step stepped)).work ▸ held, executes⟩

/-! ## Callbacks of older timers -/

/-- The callback of a timer that is not the one held runs the work and leaves all timers alone. -/
theorem callback_executes (state : State τ) {id newer : TimerId} {work : Work (Op τ) (Reply τ)}
    {next : Reply τ → Script (Op τ) (Reply τ)}
    (script : state.script = .step (.callback id) next) (waits : id ∈ state.store.race.waiting)
    (held : state.store.debouncer.timer = some newer) (older : id ≠ newer)
    (supplied : state.store.debouncer.work = some work) :
    ∃ fired, machine.Executes (.timer id) work fired.store.race.agenda.now state fired ∧
      fired.store.debouncer.timer = some newer ∧
      fired.store.race.agenda = state.store.race.agenda := by
  have effect : machine.start (.callback id) state.store =
      take (state.store.debouncer.fire (state.store.race.leave id) id) fun _ => .firing :=
    if_pos waits
  have executes : (machine.start (.callback id) state.store).Executes (.timer id) work
      state.store.race.agenda.now := by
    rw [effect]
    exact (Debouncer.fire_executes id).effect (by simpa using supplied)
  obtain ⟨fired, executed, store⟩ : ∃ fired,
      machine.Executes (.timer id) work state.store.race.agenda.now state fired ∧
        fired.store = ⟨(state.store.race.leave id).settle, state.store.debouncer⟩ := by
    refine ⟨_, .of_start script executes, ?_⟩
    simp [effect, take, Debouncer.fire, Debouncer.execute, held, older.symm]
  refine ⟨fired, ?_⟩
  rw [store]
  exact ⟨executed, held, rfl⟩

omit [Instant τ] in
theorem resume_keeps (frame : Frame τ) (reply : Reply τ) (store : Store τ) :
    (resume frame reply store).store.debouncer.timer = store.debouncer.timer ∧
      (resume frame reply store).store.race = store.race := by
  cases frame with
  | serving tail => cases tail <;> cases reply <;> exact ⟨rfl, rfl⟩
  | firing => cases reply <;> exact ⟨rfl, rfl⟩

/-- Until an operation begins, the timers stay as they are. -/
theorem timers_until_operation {first last : State τ} (reaches : machine.Reaches first last)
    {since : History τ} (recorded : last.trace = first.trace ++ since)
    (undisturbed : ∀ op depth, .began op depth ∉ since) :
    last.store.debouncer.timer = first.store.debouncer.timer ∧
      last.store.race = first.store.race := by
  have split := reaches.keeps
    (fun store history => ∃ since, history = first.trace ++ since ∧
      ((∀ op depth, .began op depth ∉ since) →
        store.debouncer.timer = first.store.debouncer.timer ∧ store.race = first.store.race))
    ?_ ?_ ⟨[], by simp, fun _ => ⟨rfl, rfl⟩⟩
  · rcases split with ⟨other, same, kept⟩
    obtain rfl := List.append_cancel_left (same.symm.trans recorded)
    exact kept undisturbed
  · rintro op depth store _ ⟨since, rfl, _⟩
    refine ⟨since ++ .began op depth :: (start op store).moments op depth, by simp [machine], ?_⟩
    intro undisturbed
    exact absurd (by simp) (undisturbed op depth)
  · rintro op frame reply depth store _ ⟨since, rfl, kept⟩
    refine ⟨since ++ (resume frame reply store).moments op depth, by simp [machine], ?_⟩
    intro undisturbed
    rcases resume_keeps frame reply store with ⟨timer, race⟩
    obtain ⟨timerBefore, raceBefore⟩ := kept fun other level member =>
      undisturbed other level (List.mem_append_left _ member)
    exact ⟨timer.trans timerBefore, race.trans raceBefore⟩

/-- However timers begin to fire and in whatever order their callbacks run, on the trailing edge
the callback of a timer that is no longer held leaves the one that is held in place and pending,
until some operation begins. A call that found work is waited for by the pending timer or by the
callback of a timer that has begun to fire, or it was followed by an execution, unless the debouncer
was reset. Executions run the work supplied last. -/
theorem no_call_lost_to_firing (settings : Settings) (name : Value) (clock : τ)
    (script : Script (Op τ) (Reply τ)) (state : State τ)
    (debounced : settings.passthrough = false) (edge : settings.leading = false)
    (reaches : machine.Reaches (State.initial settings name clock script) state) :
    (∀ id newer next, id ∈ state.store.race.waiting →
      state.store.debouncer.timer = some newer → id ≠ newer →
      ∃ work fired, latestWork? state.trace = some work ∧
        machine.Executes (.timer id) work fired.store.race.agenda.now
          { state with script := .step (.callback id) next } fired ∧
        ∀ last since, machine.Reaches fired last → last.trace = fired.trace ++ since →
          (∀ op depth, .began op depth ∉ since) →
            last.store.debouncer.timer = some newer ∧
              last.store.debouncer.pending last.store.race =
                state.store.debouncer.pending state.store.race) ∧
    (∀ before work? overtaking depth after,
      state.trace = before ++ .began (.request (.call work?) overtaking) depth :: after →
      latestWork? (before ++ [.began (.request (.call work?) overtaking) depth]) ≠ none →
      (∀ moment ∈ after, ¬ moment.IsReset) →
      state.store.debouncer.pending state.store.race = true ∨ state.store.race.waiting ≠ [] ∨
        ∃ moment ∈ after, moment.IsDelivery) ∧
    (∀ next, machine.step? state = some next →
      (∃ cause work, latestWork? next.trace = some work ∧
        machine.Executes cause work next.store.race.agenda.now state next) ∨
      ∃ moments, next.trace = state.trace ++ moments ∧
        ∀ moment ∈ moments, ¬ moment.IsExecution) := by
  have remembers := remembers_of_reaches reaches
  refine ⟨?_, ?_, fun next => executes_or_silent reaches⟩
  · intro id newer next waits held older
    cases supplied : state.store.debouncer.work with
    | none => simp [(idle_of_reaches reaches supplied).2] at waits
    | some work =>
        obtain ⟨fired, executes, stillHeld, agenda⟩ :=
          callback_executes { state with script := .step (.callback id) next } rfl waits held older
            supplied
        refine ⟨work, fired, remembers.work ▸ supplied, executes, ?_⟩
        intro last since reachesLast recorded undisturbed
        rcases timers_until_operation reachesLast recorded undisturbed with ⟨timer, race⟩
        have heldLast := timer.trans stillHeld
        refine ⟨heldLast, ?_⟩
        rw [Bool.eq_iff_iff, Race.pending_iff, Race.pending_iff, heldLast, race, agenda, held]
  · intro before work? overtaking depth after recorded found unreset
    rcases Owed.of_call recorded ⟨work?, rfl⟩ found unreset with owed | delivered
    · have same := settings_of_reaches reaches
      rcases remembers.promised (same ▸ debounced) (same ▸ edge) owed with waits | promised
      · exact .inr (.inl waits)
      · exact .inl (Race.pending_iff.mpr promised)
    · exact .inr (.inr delivered)

/-- The first timer has begun to fire when a call starts a second one, which outlives the callback
of the first. -/
theorem no_call_lost_to_firing_of_two :
    let first := State.initial fiveSeconds .null (0 : Rat)
      (.before [.request (.call (some (.resting [0]))) [], .begin 0, .request (.call none) []]
        (.done (.ok .nothing)))
    let state := machine.run 3 first
    fiveSeconds.passthrough = false ∧ fiveSeconds.leading = false ∧
      machine.Reaches first state ∧ state.store.race.waiting = [0] ∧
      ∃ work fired, work.id = [0] ∧
        machine.Executes (.timer 0) work fired.store.race.agenda.now
          { state with script := .perform (.callback 0) } fired ∧
        fired.store.debouncer.timer = some 1 ∧
        fired.store.debouncer.pending fired.store.race = true := by
  intro first state
  have debounced : fiveSeconds.passthrough = false := by decide +kernel
  have reaches := Machine.reaches_run machine 3 first
  have waiting : state.store.race.waiting = [0] := by decide +kernel
  have held : state.store.debouncer.timer = some 1 := by decide +kernel
  have pending : state.store.debouncer.pending state.store.race = true := by decide +kernel
  have latest : (latestWork? state.trace).map Work.id = some [0] := by decide +kernel
  obtain ⟨work, fired, supplied, executes, kept⟩ :=
    (no_call_lost_to_firing _ _ _ _ state debounced rfl reaches).1 0 1 .done
      (by simp [waiting]) held (by decide)
  rcases kept fired [] .refl (by simp) (by simp) with ⟨heldAfter, pendingAfter⟩
  rw [supplied] at latest
  exact ⟨debounced, rfl, reaches, waiting, work, fired, Option.some.inj latest, executes, heldAfter,
    pendingAfter.trans pending⟩

/-- A call that finds no work is refused, and nothing waits for it. -/
theorem refused_call_not_owed :
    ¬ ∀ (settings : Settings) (name : Value) (clock : Rat) (script : Script (Op Rat) (Reply Rat))
      (state : State Rat), settings.passthrough = false → settings.leading = false →
      machine.Reaches (State.initial settings name clock script) state →
      ∀ before work? overtaking depth after,
        state.trace = before ++ .began (.request (.call work?) overtaking) depth :: after →
        (∀ moment ∈ after, ¬ moment.IsReset) →
        state.store.debouncer.pending state.store.race = true ∨ state.store.race.waiting ≠ [] ∨
          ∃ moment ∈ after, moment.IsDelivery := by
  intro always
  let first : State Rat :=
    State.initial fiveSeconds .null 0 (.perform (.request (.call none) []))
  have refused := always fiveSeconds .null 0 _ (machine.run 1 first) (by decide +kernel) rfl
    (Machine.reaches_run machine 1 first) [] none [] 0
    [.ended (.request (.call none) []) (.error .noWork) 0] rfl
    (by simp [Moment.IsReset, Moment.request?])
  rcases refused with pending | waits | ⟨moment, member, delivery⟩
  · exact absurd pending (by decide +kernel)
  · exact absurd waits (by decide +kernel)
  · obtain rfl := List.mem_singleton.mp member
    simp [Moment.IsDelivery] at delivery

end Debounce.RaceSession
