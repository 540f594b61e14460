import Debounce.Proofs.Delivery
import Debounce.Proofs.LeadingEdge

/-!
# Resetting the leading edge

On the leading edge a reset moves the two instants of the debouncer so far back that the next call
is let through. Resets may come from within works. A call that is suspended around the reset still
records its own instant when its work returns, and so takes back half of what the reset did: the
next call then has to keep the idle time from that one.
-/

namespace Debounce

/-! ## The gate after a reset -/

section Ready

variable {ω : Type} {settings : Settings} {interval : Interval} {late : Rat → Prop}
variable {debouncer : Debouncer Rat ω} {now next : Rat}

/-- The least spacing has passed, and the idle time has passed since the last call, unless this is
one that was recorded late. -/
structure Ready (settings : Settings) (interval : Interval) (late : Rat → Prop)
    (debouncer : Debouncer Rat ω) (now : Rat) : Prop where
  spaced : ∃ stamp, debouncer.leadingTimestamp = some stamp ∧ stamp + interval.begin.seconds ≤ now
  settled : ∃ call, debouncer.lastCall = some call ∧
    (late call ∨ ∀ idle, settings.idleTime = some idle → call + idle.seconds ≤ now)

/-- The gate stays open while the clock goes on. -/
theorem Ready.later (ready : Ready settings interval late debouncer now) (ahead : now ≤ next) :
    Ready settings interval late debouncer next := by
  rcases ready with ⟨⟨stamp, stamped, spaced⟩, call, recorded, settled⟩
  refine ⟨⟨stamp, stamped, Rat.le_trans spaced ahead⟩, call, recorded, ?_⟩
  exact settled.imp_right fun settled idle given => Rat.le_trans (settled idle given) ahead

theorem Ready.record {call : Rat} (ready : Ready settings interval late debouncer now)
    (recording : late call) :
    Ready settings interval late { debouncer with lastCall := some call } now :=
  ⟨ready.spaced, call, rfl, .inl recording⟩

/-- Moving the two instants back opens the gate. -/
theorem Ready.rewound (policy : debouncer.settings = settings)
    (bounds : settings.interval = some interval) (edge : settings.leading = true) (now : Rat) :
    Ready settings interval late (debouncer.rewound now) now := by
  subst policy
  have ago := Debouncer.rewind_eq
  rw [Debouncer.rewound_eq bounds edge]
  refine ⟨⟨_, rfl, by grind⟩, _, rfl, .inr ?_⟩
  intro idle given
  have least := Duration.seconds_nonneg interval.begin_nonneg
  rw [given]
  dsimp only [Option.map_some, Option.getD_some]
  grind

/-- A call goes through the open gate, if it keeps the idle time from the calls recorded late. -/
theorem Ready.admits (ready : Ready settings interval late debouncer now)
    (policy : debouncer.settings = settings) (bounds : settings.interval = some interval)
    (kept : ∀ idle call, settings.idleTime = some idle → late call → call + idle.seconds ≤ now) :
    debouncer.Admits now := by
  subst policy
  rcases ready with ⟨⟨stamp, stamped, spaced⟩, call, recorded, settled⟩
  constructor
  · exact (Debouncer.tooSoon_eq_false_iff bounds stamped).mpr spaced
  · left
    rw [Debouncer.idle_iff recorded]
    cases given : debouncer.settings.idleTime with
    | none => exact .inl rfl
    | some idle =>
        rcases settled with recording | passed
        · exact .inr ⟨idle, rfl, kept idle call given recording⟩
        · exact .inr ⟨idle, rfl, passed idle given⟩

/-- A call that is let through is executed. -/
theorem Debouncer.LeadingCall.eq_of_admits {σ : Type} {scheduler : σ} {turn : Turn Rat σ ω}
    (form : Debouncer.LeadingCall debouncer scheduler now turn) (admits : debouncer.Admits now) :
    turn = Debouncer.execute { debouncer with leadingTimestamp := some now } scheduler .call
      (.record now) := by
  rcases admits with ⟨late, opens⟩
  cases form with
  | executed _ _ => rfl
  | ignored closed =>
      rcases closed with soon | ⟨busy, below⟩
      · simp [late] at soon
      · simp [busy, below] at opens

end Ready

namespace DebouncerSession

variable {settings : Settings} {interval : Interval}

/-- One of the operations that go on at the frames will record a call of this instant. -/
def WillRecord (frames : List (Frame Rat)) (call : Rat) : Prop := .serving (.record call) ∈ frames

/-- The gate is open after a reset, in a store where operations are suspended at the inner frames. The
outer frames are those of the operations that were suspended around the reset: calls that are
recorded late are among them. -/
structure Opened (settings : Settings) (interval : Interval) (outer : List (Frame Rat))
    (store : Store Rat) (inner : List (Frame Rat)) : Prop where
  policy : store.debouncer.settings = settings
  coherent : store.debouncer.Coherent store.agenda
  ready : Ready settings interval (WillRecord outer) store.debouncer store.agenda.now
  late : ∀ call, WillRecord inner call → WillRecord outer call

/-- A section leaves the gate open. -/
def LeavesOpen (settings : Settings) (interval : Interval) (outer inner : List (Frame Rat))
    (outcome : Outcome Rat) : Prop :=
  Opened settings interval outer outcome.store (outcome.next.frame?.toList ++ inner)

section Sections

variable {outer inner : List (Frame Rat)} {store : Store Rat}

/-- A reset opens the gate. -/
theorem leavesOpen_reset (policy : store.debouncer.settings = settings)
    (coherent : store.debouncer.Coherent store.agenda) (bounds : settings.interval = some interval)
    (edge : settings.leading = true) (late : ∀ call, WillRecord inner call → WillRecord outer call) :
    LeavesOpen settings interval outer inner (start (.request .reset) store) := by
  let freed : Debouncer Rat (Work (Op Rat) (Reply Rat)) := { store.debouncer with timer := none }
  have free : store.debouncer.timer = none :=
    coherent.timer_eq_none_of_leading (policy ▸ edge)
  have resets : store.debouncer.reset store.agenda =
      { debouncer := freed.rewound store.agenda.now
        scheduler := store.agenda
        demand := .reply (.ok (.flag false)) } := by
    rw [Debouncer.reset, free]
    rfl
  have kept := coherent.reset
  rw [resets] at kept
  rw [LeavesOpen, start, take, Debouncer.serve, resets]
  have same : freed.settings = settings := policy
  exact ⟨Debouncer.rewound_settings.trans same, kept, .rewound same bounds edge _, late⟩

namespace Opened

theorem timer_eq_none (opened : Opened settings interval outer store inner)
    (edge : settings.leading = true) : store.debouncer.timer = none :=
  opened.coherent.timer_eq_none_of_leading (opened.policy ▸ edge)

theorem of_tail {frame : Frame Rat} (opened : Opened settings interval outer store (frame :: inner)) :
    Opened settings interval outer store inner :=
  { opened with late := fun call recording => opened.late call (List.mem_cons_of_mem _ recording) }

/-- An execution that is no debounced call leaves the gate open while it goes on. -/
theorem enter {frame : Frame Rat} (opened : Opened settings interval outer store inner)
    (other : ∀ call, frame ≠ .serving (.record call)) :
    Opened settings interval outer store (frame :: inner) where
  policy := opened.policy
  coherent := opened.coherent
  ready := opened.ready
  late call recording := by
    rcases List.mem_cons.mp recording with same | below
    · exact absurd same.symm (other call)
    · exact opened.late call below

/-- On the leading edge no timer is ever fired by an advance. -/
theorem sweep (opened : Opened settings interval outer store inner) (edge : settings.leading = true)
    (deadline : Rat) (fired : Nat) :
    LeavesOpen settings interval outer inner (sweep store deadline fired) := by
  rw [DebouncerSession.sweep]
  cases found : store.agenda.fireNext? deadline with
  | some entry =>
      have held := (opened.coherent.timer_of_fireNext? found).1
      rw [opened.timer_eq_none edge] at held
      cases held
  | none =>
      have ahead : store.agenda.now ≤ (store.agenda.arrive deadline).now :=
        Instant.le_later_left Rat.le_refl deadline
      exact ⟨opened.policy, opened.coherent.arrive deadline, opened.ready.later ahead, opened.late⟩

/-- Whatever begins leaves the gate open, except for a call. -/
theorem start (opened : Opened settings interval outer store inner)
    (bounds : settings.interval = some interval) (edge : settings.leading = true) (op : Op Rat)
    (other : ∀ work?, op ≠ .request (.call work?)) :
    LeavesOpen settings interval outer inner (start op store) := by
  cases op with
  | request request =>
      cases request with
      | call work? => exact absurd rfl (other work?)
      | reset =>
          exact leavesOpen_reset opened.policy opened.coherent bounds edge opened.late
      | callNow =>
          rw [LeavesOpen, DebouncerSession.start, take, Debouncer.serve, Debouncer.callNow]
          cases held : store.debouncer.work with
          | none => exact opened
          | some work =>
              simp only [Debouncer.execute, Turn.effect, held, Next.frame?, Option.toList_some]
              exact opened.enter (by simp)
      | flush =>
          rw [LeavesOpen, DebouncerSession.start, take, Debouncer.serve, Debouncer.flush,
            opened.timer_eq_none edge]
          exact opened
  | advance delay =>
      cases delay with
      | error fault => exact opened
      | ok delay => exact opened.sweep edge _ 0
  | now | policy | text => exact opened

theorem resume {frame : Frame Rat} (opened : Opened settings interval outer store (frame :: inner))
    (edge : settings.leading = true) (reply : Reply Rat) :
    LeavesOpen settings interval outer inner (resume frame reply store) := by
  cases frame with
  | advancing deadline fired =>
      cases reply with
      | error fault => exact opened.of_tail
      | ok value => exact opened.of_tail.sweep edge deadline fired
  | serving tail =>
      cases tail with
      | passOn => exact opened.of_tail
      | flushed => cases reply <;> exact opened.of_tail
      | record call =>
          cases reply with
          | error fault => exact opened.of_tail
          | ok value =>
              have recording := opened.late call List.mem_cons_self
              exact ⟨opened.policy, opened.coherent.record _, opened.ready.record recording,
                opened.of_tail.late⟩

end Opened

end Sections

/-! ## Runs -/

/-- After a reset the gate is open. -/
theorem opened_of_reset {name : Value} {clock : Rat} {script : Script (Op Rat) (Reply Rat)}
    {resetting after : State Rat} {rest : Reply Rat → Script (Op Rat) (Reply Rat)}
    (bounds : settings.interval = some interval) (edge : settings.leading = true)
    (reaches : machine.Reaches (State.initial settings name clock script) resetting)
    (resets : resetting.script = .step (.request .reset) rest)
    (wasReset : machine.step? resetting = some after) :
    Opened settings interval (resetting.stack.map Suspended.frame) after.store
      (after.stack.map Suspended.frame) := by
  simp only [Machine.step?, resets, Option.some.injEq] at wasReset
  rw [← wasReset, Machine.settle_store, Machine.map_frame_settle_stack]
  exact leavesOpen_reset (settings_of_reaches reaches) (coherent_of_reaches reaches) bounds edge
    fun _ => id

/-- A call that finds the gate open is executed at once. -/
theorem Opened.executes {outer : List (Frame Rat)} {state : State Rat}
    {next : Reply Rat → Script (Op Rat) (Reply Rat)} {work? : Option (Work (Op Rat) (Reply Rat))}
    {work : Work (Op Rat) (Reply Rat)} {inner : List (Frame Rat)}
    (opened : Opened settings interval outer state.store inner)
    (bounds : settings.interval = some interval) (edge : settings.leading = true)
    (calls : state.script = .step (.request (.call work?)) next)
    (found : work?.or state.store.debouncer.work = some work)
    (kept : ∀ idle call, settings.idleTime = some idle → WillRecord outer call →
      call + idle.seconds ≤ state.store.agenda.now) :
    ∃ called, machine.Executes .call work state.store.agenda.now state called := by
  have form := Debouncer.served_serve state.store.debouncer state.store.agenda () (.call work?)
  have executes : (DebouncerSession.start (.request (.call work?)) state.store).Executes .call work
      state.store.agenda.now := by
    rw [DebouncerSession.start]
    generalize state.store.debouncer.serve state.store.agenda () (.call work?) = turn at form
    cases form with
    | refusedCall absent => simp [absent] at found
    | passedOn _ through => simp [Settings.passthrough, opened.policy, bounds] at through
    | trailing _ _ trails _ => simp [opened.policy, edge] at trails
    | @leading _ held _ supplied _ _ call =>
        obtain rfl := Option.some.inj (supplied.symm.trans found)
        have rebound : Ready settings interval (WillRecord outer)
            { state.store.debouncer with work := some held } state.store.agenda.now :=
          ⟨opened.ready.spaced, opened.ready.settled⟩
        rw [call.eq_of_admits (rebound.admits opened.policy bounds kept)]
        exact (Debouncer.execute_executes _ _).effect rfl
  exact ⟨_, .of_start calls executes⟩

/-- The gate stays open until a call is made. -/
theorem opened_of_reaches {outer : List (Frame Rat)} {first last : State Rat}
    {since : History Rat} (bounds : settings.interval = some interval)
    (edge : settings.leading = true)
    (opened : Opened settings interval outer first.store (first.stack.map Suspended.frame))
    (reaches : machine.Reaches first last) (recorded : last.trace = first.trace ++ since)
    (uncalled : ∀ work? depth, .began (.request (.call work?)) depth ∉ since) :
    Opened settings interval outer last.store (last.stack.map Suspended.frame) := by
  have kept := reaches.keeps_frames
    (fun store frames history => ∃ since, history = first.trace ++ since ∧
      ((∀ work? depth, .began (.request (.call work?)) depth ∉ since) →
        Opened settings interval outer store frames))
    ?_ ?_ ⟨[], by simp, fun _ => opened⟩
  · rcases kept with ⟨other, same, opened⟩
    obtain rfl := List.append_cancel_left (same.symm.trans recorded)
    exact opened uncalled
  · rintro op depth store frames _ ⟨since, rfl, opened⟩
    refine ⟨since ++ .began op depth :: (start op store).moments op depth, by simp [machine], ?_⟩
    intro uncalled
    have before := opened fun work? depth member =>
      uncalled work? depth (List.mem_append_left _ member)
    refine before.start bounds edge op ?_
    rintro work? rfl
    exact uncalled work? depth (by simp)
  · rintro op frame reply depth store frames _ ⟨since, rfl, opened⟩
    refine ⟨since ++ (resume frame reply store).moments op depth, by simp [machine], ?_⟩
    intro uncalled
    have before := opened fun work? depth member =>
      uncalled work? depth (List.mem_append_left _ member)
    exact before.resume edge reply

/-- On the leading edge with exact seconds, the next call after a reset executes its work at once,
whatever was requested in between, if only it keeps the idle time from those calls that were waiting
for a work when the reset was made. Outside of works there are no such calls. -/
theorem call_after_reset_executes (settings : Settings) (interval : Interval) (name : Value)
    (clock : Rat) (script : Script (Op Rat) (Reply Rat)) (resetting after state : State Rat)
    (since : History Rat) (rest next : Reply Rat → Script (Op Rat) (Reply Rat))
    (work? : Option (Work (Op Rat) (Reply Rat))) (work : Work (Op Rat) (Reply Rat))
    (bounds : settings.interval = some interval) (edge : settings.leading = true)
    (reaches : machine.Reaches (State.initial settings name clock script) resetting)
    (resets : resetting.script = .step (.request .reset) rest)
    (wasReset : machine.step? resetting = some after) (later : machine.Reaches after state)
    (recorded : state.trace = after.trace ++ since)
    (uncalled : ∀ work? depth, .began (.request (.call work?)) depth ∉ since)
    (calls : state.script = .step (.request (.call work?)) next)
    (found : work?.or state.store.debouncer.work = some work)
    (kept : ∀ idle call, settings.idleTime = some idle →
      .serving (.record call) ∈ resetting.stack.map Suspended.frame →
      call + idle.seconds ≤ state.store.agenda.now) :
    ∃ called, machine.Executes .call work state.store.agenda.now state called := by
  have after := opened_of_reset bounds edge reaches resets wasReset
  have opened := opened_of_reaches bounds edge after later recorded uncalled
  exact opened.executes bounds edge calls found kept

/-- A work that resets its debouncer. -/
def resetting : Work (Op Rat) (Reply Rat) where
  id := [0]
  name := "resetting"
  body _ := .perform (.request .reset)

/-- The script begins with a reset. -/
def asksReset {τ : Type} : Script (Op τ) (Reply τ) → Bool
  | .step (.request .reset) _ => true
  | _ => false

/-- The script begins with a call of the work that is held. -/
def asksCall {τ : Type} : Script (Op τ) (Reply τ) → Bool
  | .step (.request (.call none)) _ => true
  | _ => false

/-- The call that is recorded when the work has returned. -/
def Frame.recorded? {τ : Type} : Frame τ → Option τ
  | .serving (.record call) => some call
  | _ => none

theorem eq_of_asksReset {τ : Type} {script : Script (Op τ) (Reply τ)}
    (asks : asksReset script = true) : ∃ next, script = .step (.request .reset) next := by
  rw [asksReset.eq_def] at asks
  split at asks
  · exact ⟨_, rfl⟩
  · cases asks

theorem eq_of_asksCall {τ : Type} {script : Script (Op τ) (Reply τ)}
    (asks : asksCall script = true) : ∃ next, script = .step (.request (.call none)) next := by
  rw [asksCall.eq_def] at asks
  split at asks
  · exact ⟨_, rfl⟩
  · cases asks

/-- A call whose work resets the debouncer is followed by another one, ten seconds later. -/
theorem call_after_reset_executes_of_two :
    let first := State.initial (oneToTwo true) .null (0 : Rat)
      (.before [.request (.call (some resetting)), .advance (.ok 10), .request (.call none)]
        (.done (.ok .nothing)))
    let inside := machine.run 1 first
    let after := machine.run 2 first
    let state := machine.run 2 after
    inside.stack.length = 1 ∧ machine.step? inside = some after ∧ machine.Reaches after state ∧
      (∀ call, .serving (.record call) ∈ inside.stack.map Suspended.frame → call = 0) ∧
      ∃ work called, machine.Executes .call work 10 state called := by
  intro first inside after state
  have reaches := Machine.reaches_run machine 1 first
  have later := Machine.reaches_run machine 2 after
  have resets : asksReset inside.script = true := by decide +kernel
  have calls : asksCall state.script = true := by decide +kernel
  have late : ∀ call, .serving (.record call) ∈ inside.stack.map Suspended.frame → call = 0 := by
    have all : (inside.stack.map Suspended.frame).all (fun frame =>
        frame.recorded?.all fun call => decide (call = 0)) = true := by decide +kernel
    intro call member
    simpa [Frame.recorded?] using List.all_eq_true.mp all _ member
  have supplied : state.store.debouncer.work.isSome = true := by decide +kernel
  have clock : state.store.agenda.now = 10 := by decide +kernel
  rcases eq_of_asksReset resets with ⟨rest, resets⟩
  rcases eq_of_asksCall calls with ⟨next, calls⟩
  rcases Option.isSome_iff_exists.mp supplied with ⟨work, found⟩
  have wasReset : machine.step? inside = some after := by
    have one : after = machine.run 1 inside := rfl
    simp only [one, Machine.run, Machine.step?, resets]
  have recorded := (List.prefix_iff_eq_append.mp later.record_grows).symm
  have uncalled : ∀ work? depth,
      .began (.request (.call work?)) depth ∉ state.trace.drop after.trace.length := by
    have all : (state.trace.drop after.trace.length).all (fun moment =>
        moment.request?.isNone) = true := by decide +kernel
    intro work? depth member
    cases List.all_eq_true.mp all _ member
  refine ⟨by decide +kernel, wasReset, later, late, work, ?_⟩
  rw [← clock]
  refine call_after_reset_executes _ .oneToTwo _ _ _ inside after state _ rest next none work rfl rfl
    reaches resets wasReset later recorded uncalled calls found ?_
  intro idle call given waits
  obtain rfl := Option.some.inj given
  rw [late call waits, clock]
  decide +kernel

/-- The next call after a reset by the work of a call comes at the same instant. It is ignored, for
the call before it has been recorded after the reset. -/
theorem call_after_reset_ignored :
    let settings : Settings :=
      { interval := some ⟨.ofSeconds 1, none, by decide, by intro last limit; cases limit⟩
        leading := true
        idleTime := some (.ofSeconds 10)
        idleTime_nonneg := by decide }
    let first := State.initial settings .null (0 : Rat)
      (.before [.request (.call (some resetting)), .request (.call none)] (.done (.ok .nothing)))
    machine.notes note 5 first =
      [.call ⟨0, false, true⟩, .reset, .call ⟨0, false, false⟩] := by
  decide +kernel

end DebouncerSession

end Debounce
