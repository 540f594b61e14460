import Debounce.Proofs.Calls
import Debounce.Proofs.Delivery
import Debounce.Proofs.Resemblance
import Debounce.Proofs.Spacing

/-!
# Failing works

Nearly everything an operation writes it writes before it runs the work, so a work that fails leaves
the debouncer as one that returns would. The exception is the instant of a call that ran the work
itself, which is only recorded when the work has returned. Only the idle time depends on that
instant: without one, the two outcomes cannot be told apart by anything that is requested later.
-/

namespace Debounce

variable {τ ω : Type}

/-! ## Debouncers that differ in the last call -/

/-- The debouncer with another instant of the last call. -/
def Debouncer.withLastCall (debouncer : Debouncer τ ω) (call? : Option τ) : Debouncer τ ω :=
  { debouncer with lastCall := call? }

/-- Without an idle time another instant of the last call is one of the things that do not matter. -/
theorem Debouncer.resembles_withLastCall [Instant τ] {debouncer : Debouncer τ ω}
    (unset : debouncer.settings.idleTime = none) (call? : Option τ) :
    debouncer.Resembles { call := true } (debouncer.withLastCall call?) :=
  ⟨rfl, .inl rfl, .inl rfl, .inr ⟨rfl, .inl unset⟩⟩

/-- If nothing but the last call may differ, it is the only difference. -/
theorem Debouncer.Resembles.eq_withLastCall [Instant τ] {debouncer other : Debouncer τ ω}
    (resembles : debouncer.Resembles { call := true } other) :
    other = debouncer.withLastCall other.lastCall := by
  have fields := resembles.fields
  rwa [resembles.settings_eq rfl, resembles.stamp_eq rfl] at fields

namespace DebouncerSession

variable [Instant τ]

/-! ## Runs without an idle time -/

/-- The store with another instant of the last call. -/
def Store.withLastCall (store : Store τ) (call? : Option τ) : Store τ :=
  { store with debouncer := store.debouncer.withLastCall call? }

/-- The stores differ in the instant of the last call at most, and there is no idle time. -/
structure Alike (store other : Store τ) : Prop where
  unset : store.debouncer.settings.idleTime = none
  same : ∃ call?, other = store.withLastCall call?

variable {store other : Store τ}

theorem Alike.resembles (alike : Alike store other) : store.Resembles { call := true } other := by
  rcases alike with ⟨unset, call?, rfl⟩
  exact ⟨rfl, Debouncer.resembles_withLastCall unset call?⟩

theorem Alike.of_resembles (unset : store.debouncer.settings.idleTime = none)
    (resembles : store.Resembles { call := true } other) : Alike store other := by
  rcases store with ⟨agenda, debouncer⟩
  rcases other with ⟨agenda', debouncer'⟩
  obtain rfl : agenda' = agenda := resembles.agenda
  have same : debouncer' = debouncer.withLastCall debouncer'.lastCall :=
    resembles.debouncer.eq_withLastCall
  exact ⟨unset, debouncer'.lastCall, congrArg (Store.mk agenda') same⟩

/-- Outcomes of debouncers that resemble each other differ in the last call alone. -/
theorem alike_of_resembles {outcome opposite : Outcome τ}
    (unset : outcome.store.debouncer.settings.idleTime = none)
    (resembles : Outcome.Resembles { call := true } outcome opposite) :
    Machine.EffectsAlike Alike outcome opposite := by
  have alike := Machine.EffectsAgree.alike resembles
  exact ⟨.of_resembles unset alike.store, alike.rest⟩

theorem alike_start (op : Op τ) (alike : Alike store other) :
    Machine.EffectsAlike Alike (start op store) (start op other) := by
  apply alike_of_resembles _ (alike.resembles.start op (by simp))
  rw [settings_start]
  exact alike.unset

theorem alike_resume (frame : Frame τ) (reply : Reply τ) (alike : Alike store other) :
    Machine.EffectsAlike Alike (resume frame reply store) (resume frame reply other) := by
  apply alike_of_resembles _ (alike.resembles.resume frame reply)
  rw [(passage_resume frame reply store).settings]
  exact alike.unset

/-! ## What an operation leaves behind -/

/-- When a work has returned that began to run at the instant, the operation that goes on at the
frame leaves the debouncer alone, except that it records a call that was debounced. -/
def WritesCall (settings : Settings) (cause : Cause) (now : τ) (frame : Frame τ) : Prop :=
  ∀ debouncer : Debouncer τ (Work (Op τ) (Reply τ)),
    debouncer.settled (some frame) =
      if cause = .call ∧ settings.passthrough = false then debouncer.withLastCall (some now)
      else debouncer

/-- A section reports no execution, or it begins one and leaves no more to record than the call. -/
def WritesCalls (settings : Settings) (outcome : Outcome τ) : Prop :=
  outcome.Silent ∨ ∃ cause work now frame, outcome.Executes cause work now ∧
    outcome.next.frame? = some frame ∧ WritesCall settings cause now frame

section WritesCall

variable {settings : Settings} {store : Store τ} {outcome : Outcome τ}

omit [Instant τ] in
theorem writesCall_of_other {cause : Cause} {now : τ} {frame : Frame τ}
    (other : ¬ (cause = .call ∧ settings.passthrough = false))
    (leaves : ∀ debouncer : Debouncer τ (Work (Op τ) (Reply τ)),
      debouncer.settled (some frame) = debouncer) : WritesCall settings cause now frame := by
  intro debouncer
  rw [leaves, if_neg other]

omit [Instant τ] in
theorem writesCall_call (debounced : settings.passthrough = false) (now : τ) :
    WritesCall settings .call now (.serving (.record now)) := by
  intro debouncer
  rw [if_pos ⟨rfl, debounced⟩]
  rfl

theorem writesCalls_take {turn : Turn τ (Agenda τ Unit) (Work (Op τ) (Reply τ))} {cause : Cause}
    {work : Work (Op τ) (Reply τ)} {tail : Tail τ} {frame : Tail τ → Frame τ}
    (executes : turn.Executes cause) (held : turn.debouncer.work = some work)
    (demand : turn.demand = .execute tail)
    (writes : WritesCall settings cause turn.scheduler.now (frame tail)) :
    WritesCalls settings (take turn frame) := by
  refine .inr ⟨cause, work, turn.scheduler.now, frame tail, executes.effect held, ?_, writes⟩
  simp [take, Turn.effect, demand, held, Next.frame?]

theorem Passage.writesCalls (passage : Passage store outcome)
    (coherent : store.debouncer.Coherent store.agenda) : WritesCalls settings outcome := by
  cases passage with
  | answered | recorded | arrived _ => exact .inl (by simp [Effect.Silent, answer])
  | @fired _ _ id timer agenda found =>
      have held := (coherent.timer_of_fireNext? found).1
      rcases Option.isSome_iff_exists.mp (coherent.supplied (by simp [held])) with ⟨work, supplied⟩
      refine writesCalls_take (store.firing_executes agenda id timer) (by simpa [Store.firing]) rfl ?_
      intro debouncer
      rfl

/-- Of all requests only a debounced call has something to record after the work. -/
theorem writesCalls_request (policy : store.debouncer.settings = settings)
    (coherent : store.debouncer.Coherent store.agenda)
    (request : Request (Work (Op τ) (Reply τ))) :
    WritesCalls settings (start (.request request) store) := by
  subst policy
  have form := Debouncer.served_serve store.debouncer store.agenda () request
  rw [start]
  generalize store.debouncer.serve store.agenda () request = turn at form
  cases form with
  | refusedCall _ | refusedNow _ | nothingToFlush _ | tooLateToFlush _ _ =>
      exact .inl (by simp [Effect.Silent, take, Turn.effect])
  | reset => exact .inl Debouncer.reset_replies.silent
  | passedOn _ through =>
      exact writesCalls_take (Debouncer.execute_executes _ _) rfl rfl
        (writesCall_of_other (by simp [through]) fun _ => rfl)
  | ranNow supplied =>
      exact writesCalls_take (Debouncer.execute_executes _ _) supplied rfl
        (writesCall_of_other (by simp) fun _ => rfl)
  | flushed held _ =>
      rcases Option.isSome_iff_exists.mp (coherent.supplied (by simp [held])) with ⟨work, supplied⟩
      exact writesCalls_take (Debouncer.execute_executes _ _) supplied rfl
        (writesCall_of_other (by simp) fun _ => rfl)
  | leading _ debounced _ call =>
      cases call with
      | ignored _ => exact .inl (Debouncer.recorded_replies (by simp)).silent
      | executed _ _ =>
          exact writesCalls_take (Debouncer.execute_executes _ _) rfl rfl (writesCall_call debounced _)
  | trailing _ debounced _ call =>
      cases call with
      | overdue _ _ _ =>
          refine writesCalls_take (Debouncer.execute_executes _ _) rfl rfl ?_
          simpa [Debouncer.execute] using writesCall_call debounced store.agenda.now
      | opened _ | overtaken _ _ _ | moved _ _ _ | kept _ _ _ =>
          exact .inl (Debouncer.recorded_replies (by simp)).silent

end WritesCall

/-- What is left to do at the end of an operation is known when it begins to run a work. -/
theorem writesCall_of_executes {settings : Settings} {name : Value} {clock now : τ}
    {script : Script (Op τ) (Reply τ)} {before begun : State τ} {cause : Cause}
    {work : Work (Op τ) (Reply τ)} {waiting : Suspended (Op τ) (Reply τ) (Frame τ)}
    {below : List (Suspended (Op τ) (Reply τ) (Frame τ))}
    (reaches : machine.Reaches (State.initial settings name clock script) before)
    (executes : machine.Executes cause work now before begun)
    (waits : begun.stack = waiting :: below) : WritesCall settings cause now waiting.frame := by
  have coherent := coherent_of_reaches reaches
  have policy := settings_of_reaches reaches
  cases Machine.step_of_step? executes.stepped with
  | ask _ => exact absurd (by simp) (executes.not_silent (List.append_nil _).symm)
  | @start op next script =>
      have kinds : WritesCalls settings (start op before.store) := by
        cases asks : Requesting.request? op with
        | none => exact (passage_start op before.store asks).writesCalls coherent
        | some request =>
            obtain rfl := Op.eq_of_request? asks
            exact writesCalls_request policy coherent request
      rcases kinds with silent | ⟨cause, work, now, frame, begins, goesOn, writes⟩
      · refine absurd ?_
          (executes.not_silent (Machine.start_of_step? script executes.stepped).2)
        intro moment member
        rcases List.mem_cons.mp member with rfl | inEffect
        · simp [Moment.IsExecution]
        · exact silent.moments inEffect
      · rcases executes.unique (Machine.Executes.of_start script begins) with ⟨rfl, rfl⟩
        exact Machine.frame_of_settle_stack _ _ _ _ waits goesOn ▸ writes
  | @resume reply op frame next rest script stack =>
      have kinds : WritesCalls settings (resume frame reply before.store) :=
        (passage_resume frame reply before.store).writesCalls coherent
      rcases kinds with silent | ⟨cause, work, now, frame, begins, goesOn, writes⟩
      · exact absurd (fun moment => silent.moments)
          (executes.not_silent (Machine.settle_trace _ _ _ _))
      · rcases executes.unique (Machine.Executes.of_resume script stack begins) with ⟨rfl, rfl⟩
        exact Machine.frame_of_settle_stack _ _ _ _ waits goesOn ▸ writes

omit [Instant τ] in
theorem Store.settled_of_writesCall {settings : Settings} {cause : Cause} {now : τ} {frame : Frame τ}
    (writes : WritesCall settings cause now frame) (store : Store τ) :
    { store with debouncer := store.debouncer.settled (some frame) } =
      if cause = .call ∧ settings.passthrough = false then store.withLastCall (some now)
      else store := by
  rw [writes]
  split <;> rfl

/-- A failure of the work is passed on and changes nothing. -/
theorem resume_error (frame : Frame τ) (fault : Fault) (store : Store τ) :
    resume frame (.error fault) store = answer store (.error fault) := by
  cases frame with
  | serving tail => cases tail <;> rfl
  | advancing deadline fired => rfl

/-- When the work returns, the operation ends, or an advance goes on to the next timer. -/
theorem resume_ok (frame : Frame τ) (value : Answer τ) (store : Store τ) :
    let settled := { store with debouncer := store.debouncer.settled (some frame) }
    (∃ reply, resume frame (.ok value) store = answer settled reply) ∨
      ∃ deadline fired, frame = .advancing deadline fired ∧
        resume frame (.ok value) store = sweep settled deadline fired := by
  cases frame with
  | serving tail => cases tail <;> exact .inl ⟨_, rfl⟩
  | advancing deadline fired => exact .inr ⟨deadline, fired, rfl, rfl⟩

/-- Suppose that an execution has begun, and its work is over. If the work fails the operation that
ran it ends at once and changes nothing more. If the work returns the operation ends or goes on to
the next timer, from a store that is the same except after a debounced call, which is then recorded
as the last one. Without an idle time nothing that follows depends on that. -/
theorem failure_spares_timing (settings : Settings) (name : Value) (clock now : τ)
    (script : Script (Op τ) (Reply τ)) (before begun ended : State τ) (cause : Cause)
    (work : Work (Op τ) (Reply τ)) (waiting : Suspended (Op τ) (Reply τ) (Frame τ))
    (below : List (Suspended (Op τ) (Reply τ) (Frame τ))) (value : Answer τ) (fault : Fault)
    (reaches : machine.Reaches (State.initial settings name clock script) before)
    (executes : machine.Executes cause work now before begun)
    (waits : begun.stack = waiting :: below) (works : machine.Reaches begun ended)
    (back : ended.stack = begun.stack) :
    let failed := ended.store
    let returned :=
      if cause = .call ∧ settings.passthrough = false then failed.withLastCall (some now)
      else failed
    let replied (reply : Reply τ) : State τ := { ended with script := .done reply }
    let goesOn (reply : Reply τ) (outcome : Outcome τ) : State τ :=
      Machine.settle { replied reply with stack := below } waiting.op waiting.next outcome
    machine.step? (replied (.error fault)) =
        some (goesOn (.error fault) (answer failed (.error fault))) ∧
      (∃ outcome, machine.step? (replied (.ok value)) = some (goesOn (.ok value) outcome) ∧
        ((∃ reply, outcome = answer returned reply) ∨
          ∃ deadline fired, waiting.frame = .advancing deadline fired ∧
            outcome = sweep returned deadline fired)) ∧
      (settings.idleTime = none → ∀ fuel (later : State τ), ∃ call?,
        let last := machine.run fuel { later with store := failed }
        machine.run fuel { later with store := returned } =
          { last with store := last.store.withLastCall call? }) := by
  intro failed returned replied goesOn
  have writes := writesCall_of_executes reaches executes waits
  have settled : { failed with debouncer := failed.debouncer.settled (some waiting.frame) } =
      returned := Store.settled_of_writesCall writes failed
  have policy : failed.debouncer.settings = settings :=
    settings_of_reaches ((reaches.step executes.stepped).trans works)
  have stepped (reply : Reply τ) :
      machine.step? (replied reply) = some (goesOn reply (resume waiting.frame reply failed)) := by
    simp only [replied, goesOn, Machine.step?, back, waits]
    rfl
  refine ⟨?_, ?_, ?_⟩
  · rw [stepped, resume_error]
  · refine ⟨_, stepped (.ok value), ?_⟩
    have goes := resume_ok waiting.frame value failed
    rwa [settled] at goes
  · intro unset fuel later
    have alike : Alike failed returned := by
      refine ⟨policy ▸ unset, ?_⟩
      unfold returned
      split
      · exact ⟨some now, rfl⟩
      · exact ⟨failed.debouncer.lastCall, rfl⟩
    have both : Machine.ConfigsAlike Alike { later with store := failed }
        { later with store := returned } := ⟨alike, rfl⟩
    have ends : Machine.ConfigsAlike Alike (machine.run fuel { later with store := failed })
        (machine.run fuel { later with store := returned }) :=
      Machine.run_alike (fun op _ _ => alike_start op)
        (fun frame reply _ _ => alike_resume frame reply) fuel both
    rcases ends with ⟨⟨_, call?, same⟩, rest⟩
    exact ⟨call?, by rw [rest, same]⟩

/-- A call on the leading edge runs a work. If the work returns the call is recorded, and if it fails
the last call stays where making the debouncer has put it. -/
theorem failure_spares_timing_of_call :
    let first := State.initial (oneToTwo true) .null (0 : Rat)
      (.perform (.request (.call (some (.resting [0])))))
    let begun := machine.run 1 first
    let waiting : Suspended (Op Rat) (Reply Rat) (Frame Rat) :=
      ⟨.request (.call (some (.resting [0]))), .serving (.record 0), .done⟩
    machine.Executes .call (.resting [0]) 0 first begun ∧ begun.stack = [waiting] ∧
      begun.store.debouncer.lastCall = some (-12) ∧
      machine.step? { begun with script := .done (.error .noWork) } =
        some (Machine.settle { begun with script := .done (.error .noWork), stack := [] }
          waiting.op waiting.next (answer begun.store (.error .noWork))) ∧
      ∃ outcome, machine.step? { begun with script := .done (.ok .nothing) } =
          some (Machine.settle { begun with script := .done (.ok .nothing), stack := [] }
            waiting.op waiting.next outcome) ∧
        ∃ reply, outcome = answer (begun.store.withLastCall (some 0)) reply := by
  intro first begun waiting
  let called : Debouncer Rat (Work (Op Rat) (Reply Rat)) :=
    { first.store.debouncer with work := some (.resting [0]) }
  have late : called.tooSoon 0 = false := by decide +kernel
  have settled : called.idle 0 = true := by decide +kernel
  have serves : first.store.debouncer.serve first.store.agenda () (.call (some (.resting [0]))) =
      Debouncer.execute { called with leadingTimestamp := some 0 } first.store.agenda .call
        (.record 0) := by
    change called.leadingEdge _ 0 = _
    rw [Debouncer.leadingEdge, late, settled]
    rfl
  have begins : (start (.request (.call (some (.resting [0])))) first.store).Executes .call
      (.resting [0]) 0 := by
    rw [start, serves]
    exact (Debouncer.execute_executes _ _).effect rfl
  have goesOn : (start (.request (.call (some (.resting [0])))) first.store).next.frame? =
      some (.serving (.record 0)) := by
    rw [start, serves]
    rfl
  have executes : machine.Executes .call (.resting [0]) 0 first begun := .of_start rfl begins
  have waits : begun.stack = [waiting] :=
    (Machine.settle_stack _ _ _ _).trans (by rw [machine, goesOn]; rfl)
  rcases failure_spares_timing _ _ _ _ _ first begun begun _ _ waiting [] .nothing .noWork .refl
    executes waits .refl rfl with ⟨failed, ⟨outcome, returned, ends⟩, _⟩
  refine ⟨executes, waits, by decide +kernel, failed, outcome, returned, ?_⟩
  rcases ends with ends | ⟨_, _, advancing, _⟩
  · exact ends
  · cases advancing

/-- A work that fails. -/
def failing : Work (Op τ) (Reply τ) := .replying [0] (.error (.raised .value []))

/-- The instant of a call on the leading edge is recorded if its work returns, but not if it fails.
The next call is ignored in one case, and executed in the other. -/
theorem failure_forgets_call :
    let first (work : Work (Op Rat) (Reply Rat)) := State.initial (oneToTwo true) .null (0 : Rat)
      (.before [.request (.call (some work)), .advance (.ok 1), .request (.call none)]
        (.done (.ok .nothing)))
    (machine.run 2 (first (.resting [0]))).store.debouncer.lastCall = some 0 ∧
      (machine.run 2 (first failing)).store.debouncer.lastCall = some (-12) ∧
      starts (machine.run 12 (first (.resting [0]))).trace = [0] ∧
      starts (machine.run 12 (first failing)).trace = [0, 1] := by
  decide +kernel

end DebouncerSession

end Debounce
