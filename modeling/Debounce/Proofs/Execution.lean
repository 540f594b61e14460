import Debounce.Proofs.Run
import Debounce.Proofs.Turn

/-!
# How executions begin

A debouncer runs its work from within a section of an operation: it reports the execution, the
work is reported to run, and its script is what runs next. Every section that a turn of a
debouncer makes either begins an execution in this way or reports none.
-/

namespace Debounce

section Effects

variable {Op R Store Frame τ : Type}

/-- A section of an operation ends by beginning an execution, and reports no other. -/
structure Effect.Executes (effect : Effect Op R Store Frame (Event τ)) (cause : Cause)
    (work : Work Op R) (now : τ) : Prop where
  next : ∃ frame, effect.next = .enter frame work {}
  events : ∃ earlier name context,
    effect.events = earlier ++ [.executed name cause, .ran work.id work.name now context] ∧
      ∀ event ∈ earlier, ¬ event.IsExecution

/-- A section of an operation reports no execution. -/
def Effect.Silent (effect : Effect Op R Store Frame (Event τ)) : Prop :=
  ∀ event ∈ effect.events, ¬ event.IsExecution

/-- The record tells of an execution here. -/
def Moment.IsExecution (moment : Moment Op R (Event τ)) : Prop :=
  ∃ event, moment = .event event ∧ event.IsExecution

/-- In a step of a run an execution of the work begins at the given instant, and no other. -/
structure Machine.Executes (machine : Machine Op R Store Frame (Event τ)) (cause : Cause)
    (work : Work Op R) (now : τ) (before after : Config Op R Store Frame (Event τ)) : Prop where
  stepped : machine.step? before = some after
  script : after.script = work.body {}
  recorded : ∃ earlier name context, after.trace = before.trace ++ (earlier ++
      [.event (.executed name cause), .event (.ran work.id work.name now context)]) ∧
    ∀ moment ∈ earlier, ¬ moment.IsExecution

variable {effect : Effect Op R Store Frame (Event τ)} {cause : Cause} {work : Work Op R} {now : τ}

theorem Moment.isExecution_event {event : Event τ} :
    (Moment.event event : Moment Op R (Event τ)).IsExecution ↔ event.IsExecution := by
  simp [Moment.IsExecution]

theorem Effect.Executes.moments (executes : effect.Executes cause work now) (op : Op)
    (depth : Nat) :
    ∃ earlier name context, effect.moments op depth =
        earlier ++ [.event (.executed name cause), .event (.ran work.id work.name now context)] ∧
      ∀ moment ∈ earlier, ¬ moment.IsExecution := by
  rcases executes.next with ⟨frame, entered⟩
  rcases executes.events with ⟨earlier, name, context, reported, unreported⟩
  refine ⟨earlier.map .event, name, context, by simp [Effect.moments, entered, reported], ?_⟩
  intro moment member
  rcases List.mem_map.mp member with ⟨event, inEarlier, rfl⟩
  exact fun told => unreported event inEarlier (Moment.isExecution_event.mp told)

theorem Effect.Silent.moments (silent : effect.Silent) {op : Op} {depth : Nat}
    {moment : Moment Op R (Event τ)} (member : moment ∈ effect.moments op depth) :
    ¬ moment.IsExecution := by
  rintro ⟨event, rfl, told⟩
  exact silent event (Effect.event_mem_moments.mp member) told

end Effects

/-! ## Steps of a run -/

namespace Machine

variable {Op R Store Frame τ : Type} {machine : Machine Op R Store Frame (Event τ)}
variable {before after : Config Op R Store Frame (Event τ)} {cause : Cause} {work : Work Op R}
variable {now : τ}

theorem Executes.of_start {op : Op} {next : R → Script Op R}
    (script : before.script = .step op next)
    (executes : (machine.start op before.store).Executes cause work now) :
    Executes machine cause work now before
      (settle { before with trace := before.trace ++ [.began op before.stack.length] } op next
        (machine.start op before.store)) := by
  rcases executes.next with ⟨frame, entered⟩
  obtain ⟨earlier, name, context, moments, unreported⟩ :=
    executes.moments op before.stack.length
  refine ⟨by simp [step?, script], settle_script_of_enter _ _ _ _ entered, ?_⟩
  refine ⟨.began op before.stack.length :: earlier, name, context, by simp [moments], ?_⟩
  simpa [Moment.IsExecution] using unreported

theorem Executes.of_resume {reply : R} {op : Op} {frame : Frame} {next : R → Script Op R}
    {rest : List (Suspended Op R Frame)} (script : before.script = .done reply)
    (stack : before.stack = ⟨op, frame, next⟩ :: rest)
    (executes : (machine.resume frame reply before.store).Executes cause work now) :
    Executes machine cause work now before
      (settle { before with stack := rest } op next
        (machine.resume frame reply before.store)) := by
  rcases executes.next with ⟨inner, entered⟩
  rcases executes.moments op rest.length with ⟨earlier, name, context, moments, unreported⟩
  refine ⟨by simp [step?, script, stack], settle_script_of_enter _ _ _ _ entered, ?_⟩
  exact ⟨earlier, name, context, by simp [moments], unreported⟩

/-- What made the work run and when is all in the record. -/
theorem Executes.unique {other : Cause} {held : Work Op R} {instant : τ}
    (executes : Executes machine cause work now before after)
    (same : Executes machine other held instant before after) : cause = other ∧ now = instant := by
  rcases executes.recorded with ⟨earlier, name, context, recorded, _⟩
  rcases same.recorded with ⟨earlier', name', context', recorded', _⟩
  have both := (List.append_inj' (List.append_cancel_left (recorded.symm.trans recorded')) rfl).2
  simp only [List.cons.injEq, Moment.event.injEq, Event.executed.injEq, Event.ran.injEq] at both
  exact ⟨both.1.2, both.2.1.2.2.1⟩

/-- A step that begins an execution does not record that there was none. -/
theorem Executes.not_silent {moments : List (Moment Op R (Event τ))}
    (executes : Executes machine cause work now before after)
    (recorded : after.trace = before.trace ++ moments) :
    ¬ ∀ moment ∈ moments, ¬ moment.IsExecution := by
  rcases executes.recorded with ⟨earlier, name, context, told, _⟩
  obtain rfl := List.append_cancel_left (recorded.symm.trans told)
  intro silent
  exact silent (.event (.executed name cause)) (by simp) ⟨_, rfl, trivial⟩

/-- If every section either begins an execution or reports none, then a step of a run either
begins one or records none. -/
theorem executes_or_silent (Sound : Work Op R → τ → Store → Prop)
    (started : ∀ op next, before.script = .step op next →
      (machine.start op before.store).Silent ∨ ∃ cause work now,
        (machine.start op before.store).Executes cause work now ∧
          Sound work now (machine.start op before.store).store)
    (resumed : ∀ frame reply, before.script = .done reply →
      (machine.resume frame reply before.store).Silent ∨ ∃ cause work now,
        (machine.resume frame reply before.store).Executes cause work now ∧
          Sound work now (machine.resume frame reply before.store).store)
    (stepped : machine.step? before = some after) :
    (∃ cause work now, Executes machine cause work now before after ∧
        Sound work now after.store) ∨
      ∃ moments, after.trace = before.trace ++ moments ∧ ∀ moment ∈ moments,
        ¬ moment.IsExecution := by
  cases step_of_step? stepped with
  | @start op next script =>
      rcases started op next script with silent | ⟨cause, work, now, executes, sound⟩
      · refine .inr ⟨.began op before.stack.length ::
          (machine.start op before.store).moments op before.stack.length, by simp, ?_⟩
        intro moment member
        rcases List.mem_cons.mp member with rfl | inEffect
        · simp [Moment.IsExecution]
        · exact silent.moments inEffect
      · exact .inl ⟨cause, work, now, .of_start script executes, by simpa using sound⟩
  | ask _ => exact .inr ⟨[], by simp, by simp⟩
  | @resume reply op frame next rest script stack =>
      rcases resumed frame reply script with silent | ⟨cause, work, now, executes, sound⟩
      · exact .inr ⟨_, settle_trace _ _ _ _, fun moment => silent.moments⟩
      · exact .inl ⟨cause, work, now, .of_resume script stack executes, by simpa using sound⟩

end Machine

/-! ## Turns -/

namespace Turn

variable {τ σ κ Op Store Frame : Type} [Scheduler σ τ κ]
variable {turn : Turn τ σ (Work Op (Reply τ))} {context : Fields} {frame : Tail τ → Frame}
variable {put : Debouncer τ (Work Op (Reply τ)) → σ → Store} {cause : Cause}

@[simp] theorem effect_store :
    (turn.effect context frame put).store = put turn.debouncer turn.scheduler := by
  rw [effect]
  split
  · rfl
  · split <;> rfl

theorem effect_of_reply {reply : Reply τ} (replies : turn.demand = .reply reply) :
    turn.effect context frame put =
      { store := put turn.debouncer turn.scheduler, events := turn.events,
        next := .finish reply } := by
  simp [effect, replies]

theorem events_subset_effect : turn.events ⊆ (turn.effect context frame put).events := by
  rw [effect]
  split
  · simp
  · split <;> simp

theorem Replies.silent (replies : turn.Replies) : (turn.effect context frame put).Silent := by
  rcases replies.demand with ⟨reply, demand⟩
  simpa [Effect.Silent, effect_of_reply demand] using replies.events

theorem Executes.effect {work : Work Op (Reply τ)} (executes : turn.Executes cause)
    (supplied : turn.debouncer.work = some work) :
    (turn.effect context frame put).Executes cause work (Scheduler.now turn.scheduler) := by
  rcases executes.demand with ⟨tail, demand⟩
  rcases executes.events with ⟨earlier, events, unreported⟩
  refine ⟨⟨frame tail, by simp [Turn.effect, demand, supplied]⟩, earlier,
    turn.debouncer.name, context, ?_, unreported⟩
  simp [Turn.effect, demand, supplied, events]

end Turn

end Debounce
