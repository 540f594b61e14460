import Debounce.Proofs.UnderKey

/-!
# How long calls hold the work back

Calls under a key that debounce for a range put the work off, but not for ever. A period begins
with the call that starts a timer. From then on every section of an operation keeps the timer
between the begin and the end of the range after that call, or runs the work within these bounds,
and the work it runs is the one that was supplied last under the key. This is known of the debouncer
that the key stands for in every state of a run, also while works run that call it again, and a key
that is taken out of use stands for nothing until it is called again.
-/

namespace Debounce.RegistrySession

variable {τ : Type} [Instant τ]

/-! ## Sections within a range -/

namespace Tends

variable {store : Store τ} {id : DebouncerId} {debouncer later : Member τ}
variable {called? : Option (Option (Work (Op τ) (Reply τ)))} {outcome : Outcome τ}
variable {bounds : Interval} {last : Duration}

theorem policy (tends : Tends store id debouncer called? outcome later) :
    later.settings = debouncer.settings := by
  cases tends with
  | served => exact (Debouncer.served_serve _ _ _ _).settings
  | fired => exact Debouncer.fire_settings _
  | recorded | spared => rfl

/-- The work changes only with a call that supplies some. -/
theorem work (tends : Tends store id debouncer called? outcome later) :
    later.work = called?.join.or debouncer.work := by
  cases tends with
  | served calls _ _ =>
      rw [← calls, ← Request.supplied?_eq]
      exact (Debouncer.served_serve _ _ _ _).work
  | fired calls _ _ =>
      rw [calls]
      exact Debouncer.fire_work _
  | recorded calls | spared calls _ _ => rw [calls]; rfl

variable (tends : Tends store id debouncer called? outcome later)

include tends

/-- The section leaves the period open, or it is a call that opens one. -/
theorem continues_or_opens (policy : debouncer.settings = .forRange bounds)
    (held : later.timer.isSome) :
    (later.timer = debouncer.timer ∧ later.leadingTimestamp = debouncer.leadingTimestamp ∧
        ∀ event, ⟨id, event⟩ ∈ outcome.events → ¬ event.IsExecution ∧ ¬ event.IsOpening) ∨
      (later.leadingTimestamp = some store.agenda.now ∧ called?.isSome ∧
        ∃ earlier name delay, outcome.events = earlier ++ [⟨id, .timerStarted name delay⟩] ∧
          outcome.next = .finish (.ok .nothing)) := by
  cases tends with
  | @served origin request events calls deliberate quiet =>
      have form := Debouncer.served_serve debouncer store.agenda id request
      have either := form.continues_or_opens_of_trailing (by rw [policy]; rfl) (by rw [policy]; rfl)
        deliberate held
      rcases either with continues | ⟨opens, work?, rfl⟩
      · rcases continues.replies with ⟨reply, demand⟩
        refine .inl ⟨continues.timer, continues.stamp, ?_⟩
        rw [take_of_reply demand]
        intro event told
        rcases List.mem_map.mp told with ⟨_, inTurn, same⟩
        cases same
        exact (List.mem_append.mp inTurn).elim (quiet event) (continues.quiet event)
      · rcases opens.events with ⟨name, delay, reported⟩
        refine .inr ⟨opens.stamp, by simp [← calls, Request.call?], events.map (Notice.mk id), name,
          delay, ?_⟩
        rw [take_of_reply opens.replies, reported]
        simp
  | fired _ _ fires => simp [Debouncer.fire_timer _ fires] at held
  | recorded _ => exact .inl ⟨rfl, rfl, by simp [answer]⟩
  | spared _ unheard _ => exact .inl ⟨rfl, rfl, fun event told => absurd rfl (unheard _ told)⟩

variable [Instant.LawfulDeadlines τ] (policy : debouncer.settings = .forRange bounds)
  (inRange : (Settings.forRange bounds).InRange)
  (kept : debouncer.KeepsTime bounds last store.agenda)

include policy inRange kept

/-- The section keeps the timer in time. -/
theorem keepsTime (limit : bounds.limit? = some last) (minds : debouncer.Minds id store.agenda)
    (comparable : store.agenda.now ≤ store.agenda.now) :
    later.KeepsTime bounds last outcome.store.agenda := by
  cases tends with
  | served =>
      rw [take_store]
      exact kept.served policy limit inRange minds comparable (Debouncer.served_serve _ _ _ _)
  | fired _ _ fires => exact .of_timer_eq_none (Debouncer.fire_timer _ fires)
  | recorded =>
      intro place time stamp awaits
      exact kept place time stamp ⟨awaits.timer, awaits.status, awaits.stamped⟩
  | spared _ _ spares =>
      intro place time stamp awaits
      rcases spares place time stamp awaits with ⟨before, passes⟩
      have inTime := kept place time stamp before
      exact ⟨inTime.comparable, passes inTime.ahead, inTime.begins, inTime.ends⟩

/-- An execution that is no flush begins within the interval, and runs the work that is held. -/
theorem executes (minds : debouncer.Minds id store.agenda) {name : Value} {cause : Cause}
    (told : ⟨id, .executed name cause⟩ ∈ outcome.events) (other : cause ≠ .flush) :
    ∃ work stamp frame, later.work = some work ∧ debouncer.timer.isSome ∧
      debouncer.leadingTimestamp = some stamp ∧ outcome.next = .enter frame work {} ∧
      ⟨id, .ran work.id work.name outcome.store.agenda.now []⟩ ∈ outcome.events ∧
      stamp + bounds.begin.seconds ≤ outcome.store.agenda.now ∧
      outcome.store.agenda.now ≤ stamp + last.seconds := by
  cases tends with
  | @served origin request events calls deliberate quiet =>
      have form := Debouncer.served_serve debouncer store.agenda id request
      rcases form.executes_or_replies with ⟨began, executes⟩ | replies
      · rcases executes.demand with ⟨tail, demand⟩
        obtain ⟨work, supplied⟩ := form.work_of_executes executes fun _ held _ =>
          minds.supplied (by simp [held])
        rw [take_of_execute demand supplied] at told ⊢
        have same : cause = began := by
          simp only [List.mem_append, List.mem_singleton, Notice.mk.injEq, reduceCtorEq, and_false,
            or_false] at told
          rcases List.mem_map.mp told with ⟨_, inTurn, same⟩
          cases same
          rcases List.mem_append.mp inTurn with before | reported
          · exact absurd trivial (quiet _ before).1
          · exact (executes.told_iff.mp reported).2
        obtain ⟨held, stamp, stamped, within⟩ :=
          kept.executes policy inRange deliberate form executes (same ▸ other)
        rw [← form.now] at within
        exact ⟨work, stamp, _, supplied, held, stamped, rfl, by simp [Store.put], within⟩
      · rcases replies.demand with ⟨reply, demand⟩
        rw [take_of_reply demand] at told
        rcases List.mem_map.mp told with ⟨_, inTurn, same⟩
        cases same
        rcases List.mem_append.mp inTurn with before | reported
        · exact absurd trivial (quiet _ before).1
        · exact absurd trivial (replies.events _ reported)
  | @fired deadline count place timer agenda _ found fires =>
      rcases minds.awaits fires with ⟨time, stamp, awaits⟩
      obtain ⟨work, supplied⟩ := Option.isSome_iff_exists.mp (minds.supplied (by simp [fires]))
      have within := kept.fires found awaits
      have held : (debouncer.fire agenda place).debouncer.work = some work := by
        simpa using supplied
      rw [take_of_execute rfl held]
      exact ⟨work, stamp, _, held, by simp [fires], awaits.stamped, rfl, by simp [Store.put],
        within⟩
  | recorded => simp [answer] at told
  | spared _ unheard _ => exact absurd rfl (unheard _ told)

end Tends

/-! ## The clock -/

section Clock

variable [Instant.Lawful τ] {store : Store τ} {outcome : Outcome τ}

/-- The clock does not go back. -/
theorem Passage.now_le (passage : Passage store outcome)
    (comparable : store.agenda.now ≤ store.agenda.now) :
    store.agenda.now ≤ outcome.store.agenda.now := by
  cases passage with
  | answered | recorded => exact comparable
  | served | created =>
      rw [take_store, Store.put, (Debouncer.served_serve _ _ _ _).now]
      exact comparable
  | discarded _ resets | cleared resets => exact resets.now ▸ comparable
  | arrived _ => exact Instant.le_later_left comparable _
  | fired found =>
      rcases Agenda.fireNext?_eq_some found with ⟨_, _, _, rfl⟩
      rw [take_store]
      exact Instant.le_later_left comparable _

/-- In every state of a run the clock can be compared. -/
theorem comparable_of_reaches {clock : τ} {script : Script (Op τ) (Reply τ)} {state : State τ}
    (comparable : clock ≤ clock)
    (reaches : machine.Reaches (State.initial clock script) state) :
    state.store.agenda.now ≤ state.store.agenda.now := by
  have kept := reaches.keeps_store
    (fun store => store.Coherent ∧ store.agenda.now ≤ store.agenda.now) ?_ ?_
    ⟨Store.Coherent.new clock, comparable⟩
  · exact kept.2
  · rintro op store ⟨coherent, comparable⟩
    have passage := coherent.passage_start op
    exact ⟨passage.coherent coherent, Instant.Lawful.le_right (passage.now_le comparable)⟩
  · rintro frame reply store ⟨coherent, comparable⟩
    have passage := coherent.passage_resume frame reply
    exact ⟨passage.coherent coherent, Instant.Lawful.le_right (passage.now_le comparable)⟩

end Clock

/-- If the operation is a call under the key, then it debounces for the range. -/
def Op.KeepsTo (key range : Value) (op : Op τ) : Prop :=
  (op.callOn? key).isSome → ∃ given work?, op = .guarded (.debounceFor range) given work?

omit [Instant τ] in
/-- Then the policies that come for the key are those of the range, and every call comes with
one. -/
theorem Op.KeepsTo.policyFor? {key range : Value} {op : Op τ} {settings : Settings}
    (keepsTo : op.KeepsTo key range) (built : (Guard.debounceFor range).settings = .ok settings) :
    (op.policyFor? key).map Prod.snd = (op.callOn? key).map fun _ => settings := by
  cases calls : op.callOn? key with
  | none =>
      suffices other : op.policyFor? key = none by rw [other]; rfl
      rw [policyFor?_eq_none]
      intro used settings policy
      cases op with
      | guarded guard given work? =>
          have chosen := (policy?_eq_some policy).1
          have called : (Op.guarded guard given work?).call? = some (used, work?) := by
            simp [Op.call?, chosen]
          by_contra same
          cases (callOn?_of_same called (by simpa using same)).symm.trans calls
      | reset | flush | discard | clear | contains | workKey | get | call | advance | now =>
          cases policy
  | some work? =>
      obtain ⟨given, work?, rfl⟩ := keepsTo (by simp [calls])
      rcases callOn?_eq_some calls with ⟨used, called, same⟩
      have chosen : Registry.chooseKey given work? = .ok used := by
        rw [Op.call?] at called
        split at called
        · next chosen =>
            cases called
            exact chosen
        · cases called
      have policy :
          (Op.guarded (.debounceFor range) given work?).policy? = some (used, settings) := by
        rw [Op.policy?, chosen, show Settings.build _ _ _ = _ from built]
      simp [Op.policyFor?, policy, Option.filter, same]

/-! ## Periods -/

/-- A step in which a call under a key opens a period of a debouncer. -/
structure Opening (key : Value) (id : DebouncerId) (before after : State τ) : Prop where
  stepped : machine.step? before = some after
  recorded : ∃ op next earlier name delay,
    before.script = .step op next ∧ (op.callOn? key).isSome ∧
    after.trace = before.trace ++ .began op before.stack.length :: (earlier ++
      [.event ⟨id, .timerStarted name delay⟩, .ended op (.ok .nothing) before.stack.length])

/-- The period in progress was opened by a call under the key at the given reading of the clock: the
call started a timer, and since then the debouncer has started no other and executed nothing. -/
def OpenedAt (key : Value) (id : DebouncerId) (first state : State τ) (stamp : τ) : Prop :=
  ∃ before after since, machine.Reaches first before ∧ before.store.agenda.now = stamp ∧
    Opening key id before after ∧ machine.Reaches after state ∧
    state.trace = after.trace ++ since ∧
    ∀ event, .event ⟨id, event⟩ ∈ since → ¬ event.IsExecution ∧ ¬ event.IsOpening

theorem OpenedAt.step {key : Value} {id : DebouncerId} {first state next : State τ} {stamp : τ}
    {moments : History τ} (opened : OpenedAt key id first state stamp)
    (stepped : machine.step? state = some next) (recorded : next.trace = state.trace ++ moments)
    (quiet : ∀ event, .event ⟨id, event⟩ ∈ moments → ¬ event.IsExecution ∧ ¬ event.IsOpening) :
    OpenedAt key id first next stamp := by
  rcases opened with ⟨before, after, since, reaches, now, opening, later, split, silence⟩
  refine ⟨before, after, since ++ moments, reaches, now, opening, later.step stepped,
    by rw [recorded, split, List.append_assoc], ?_⟩
  intro event member
  exact (List.mem_append.mp member).elim (silence event) (quiet event)

/-- What is known of the debouncer under a key that is only called for a range. -/
structure Attended (key : Value) (bounds : Interval) (last : Duration) (first state : State τ)
    (id : DebouncerId) (debouncer : Member τ) : Prop where
  policy : debouncer.settings = .forRange bounds
  work : debouncer.work = latest? key state.trace
  inTime : debouncer.KeepsTime bounds last state.store.agenda
  opened : debouncer.timer.isSome → ∃ stamp, debouncer.leadingTimestamp = some stamp ∧
    OpenedAt key id first state stamp

/-- A step of a run in which a section tends to the debouncer under a key. -/
structure TendedBy (key : Value) (bounds : Interval) (last : Duration) (first state next : State τ)
    (id : DebouncerId) (called? : Option (Option (Work (Op τ) (Reply τ)))) (outcome : Outcome τ)
    (earlier later : Member τ) : Prop where
  attended : Attended key bounds last first state id earlier
  minds : earlier.Minds id state.store.agenda
  tends : Tends state.store id earlier called? outcome later
  left : outcome.store.registry.debouncer? id = some later
  store : next.store = outcome.store
  recorded : ∃ moments, next.trace = state.trace ++ moments ∧
    ∀ notice, .event notice ∈ moments ↔ notice ∈ outcome.events
  latest : latest? key next.trace = called?.join.or (latest? key state.trace)
  opens : called?.isSome → ∀ before name delay,
    outcome.events = before ++ [⟨id, .timerStarted name delay⟩] →
    outcome.next = .finish (.ok .nothing) → Opening key id state next
  enters : ∀ frame work, outcome.next = .enter frame work {} → next.script = work.body {}

section Holders

variable {store : Store τ} {key : Value} {id : DebouncerId}

/-- An operation that takes a key out of use leaves no debouncer there. -/
theorem stays_of_holder {op : Op τ} (coherent : store.Coherent)
    (holder : (start op store).store.registry.find? key = some id) : op.discards key = false := by
  by_contra kept
  have taken : op.discards key = true := by simpa using kept
  have policy : op.policyFor? key = none := by simp [Op.policyFor?, policy?_of_discards taken]
  cases holder.symm.trans ((find?_start coherent.toShared op).mpr ⟨.inl taken, policy⟩)

theorem holder_of_resume {frame : Frame τ} {reply : Reply τ}
    (holder : (resume frame reply store).store.registry.find? key = some id) :
    store.registry.find? key = some id := by
  rwa [Registry.find?, entries_resume] at holder

end Holders

section Tended

variable [Instant.LawfulDeadlines τ] {key : Value} {bounds : Interval} {last : Duration}
variable {first state next : State τ} {id : DebouncerId} {earlier later : Member τ}

/-- What is known of the debouncer is known of it after the step. -/
theorem TendedBy.attends {called? : Option (Option (Work (Op τ) (Reply τ)))} {outcome : Outcome τ}
    (tended : TendedBy key bounds last first state next id called? outcome earlier later)
    (limit : bounds.limit? = some last) (inRange : (Settings.forRange bounds).InRange)
    (comparable : state.store.agenda.now ≤ state.store.agenda.now)
    (reaches : machine.Reaches first state) (stepped : machine.step? state = some next) :
    Attended key bounds last first next id later := by
  rcases tended with ⟨attended, minds, tends, _, store, ⟨moments, recorded, told⟩, latest, opens, _⟩
  constructor
  · exact tends.policy.trans attended.policy
  · rw [latest, tends.work, attended.work]
  · rw [store]
    exact tends.keepsTime attended.policy inRange attended.inTime limit minds comparable
  · intro held
    rcases tends.continues_or_opens attended.policy held with
      ⟨timer, stamp, quiet⟩ | ⟨stamp, called, before, name, delay, reported, finishes⟩
    · rcases attended.opened (timer ▸ held) with ⟨begun, stamped, opened⟩
      exact ⟨begun, stamp.trans stamped, opened.step stepped recorded fun event member =>
        quiet event ((told _).mp member)⟩
    · have opening := opens called before name delay reported finishes
      exact ⟨_, stamp, state, next, [], reaches, rfl, opening, .refl, by simp, by simp⟩

omit [Instant.LawfulDeadlines τ] in
theorem tendedBy_start {op : Op τ} {rest : Reply τ → Script (Op τ) (Reply τ)}
    (attended : Attended key bounds last first state id earlier)
    (coherent : state.store.Coherent) (stands : Stands state.store key op id earlier)
    (tends : Tends state.store id earlier (op.callOn? key) (start op state.store) later)
    (left : (start op state.store).store.registry.debouncer? id = some later)
    (holder : (start op state.store).store.registry.find? key = some id)
    (script : state.script = .step op rest) (stepped : machine.step? state = some next) :
    TendedBy key bounds last first state next id (op.callOn? key) (start op state.store) earlier
      later := by
  rcases Machine.start_of_step? script stepped with ⟨store, recorded⟩
  have effect : machine.start op state.store = start op state.store := rfl
  refine ⟨attended, stands.minds coherent, tends, left, store, ⟨_, recorded, ?_⟩, ?_, ?_, ?_⟩
  · intro notice
    rw [List.mem_cons, or_iff_right nofun]
    exact Effect.event_mem_moments
  · rw [recorded]
    exact latest?_began (begun_moments _ op _) (stays_of_holder coherent holder)
  · intro called before name delay reported finishes
    refine ⟨stepped, op, rest, before.map .event, name, delay, script, called, ?_⟩
    rw [recorded, effect, Effect.moments, reported, finishes]
    simp
  · intro frame work entered
    simp only [Machine.step?, script, Option.some.injEq] at stepped
    rw [← stepped]
    exact Machine.settle_script_of_enter _ _ _ _ entered

end Tended

section Runs

variable [Instant.LawfulDeadlines τ] {key range : Value} {bounds : Interval} {last : Duration}
variable {clock : τ} {script : Script (Op τ) (Reply τ)} {state next : State τ}
variable {id : DebouncerId} {debouncer : Member τ}

omit [Instant.LawfulDeadlines τ] in
/-- While a key is not in use, no work is known under it. -/
theorem latest?_of_absent (built : (Guard.debounceFor range).settings = .ok (.forRange bounds))
    (reaches : machine.Reaches (State.initial clock script) state)
    (only : ∀ op ∈ begun state.trace, op.KeepsTo key range)
    (absent : state.store.registry.find? key = none) : latest? key state.trace = none := by
  apply latest?_eq_none
  intro op member
  have policy := (only op (mem_begun_of_sinceDiscarded member)).policyFor? built
  rw [(find?_of_reaches reaches).mp absent op member] at policy
  simpa using policy.symm

omit [Instant.LawfulDeadlines τ] in
/-- What is known of a debouncer that an operation makes. -/
theorem attended_of_made {op : Op τ} {used : Value} {settings : Settings}
    (built : (Guard.debounceFor range).settings = .ok (.forRange bounds))
    (reaches : machine.Reaches (State.initial clock script) state)
    (only : ∀ op ∈ begun state.trace, op.KeepsTo key range) (keepsTo : op.KeepsTo key range)
    (absent : state.store.registry.find? key = none)
    (policy : op.policyFor? key = some (used, settings)) :
    Attended key bounds last (State.initial clock script) state id
      (.new settings (.text used.displayText) state.store.agenda.now) where
  policy := by
    have same := keepsTo.policyFor? built
    rw [policy] at same
    cases calls : op.callOn? key with
    | none => simp [calls] at same
    | some work? =>
        have settings : settings = .forRange bounds := by simpa [calls] using same
        simp [Debouncer.new, settings]
  work := by simp [Debouncer.new, latest?_of_absent built reaches only absent]
  inTime := .of_timer_eq_none (by simp [Debouncer.new])
  opened held := by simp [Debouncer.new] at held

/-- A step of a run asks how often a work has run, or it tends to the debouncer that the key stands
for after it. -/
theorem tendedBy_of_step (built : (Guard.debounceFor range).settings = .ok (.forRange bounds))
    (reaches : machine.Reaches (State.initial clock script) state)
    (attended : ∀ id debouncer, state.store.registry.find? key = some id →
      state.store.registry.debouncer? id = some debouncer →
      Attended key bounds last (State.initial clock script) state id debouncer)
    (stepped : machine.step? state = some next)
    (only : ∀ op ∈ begun next.trace, op.KeepsTo key range)
    (holder : next.store.registry.find? key = some id) :
    (next.store = state.store ∧ next.trace = state.trace) ∨
      ∃ called? outcome earlier later, TendedBy key bounds last (State.initial clock script) state
        next id called? outcome earlier later := by
  have coherent := coherent_of_reaches reaches
  cases Machine.step_of_step? stepped with
  | @start op rest performs =>
      right
      have before : ∀ op ∈ begun state.trace, op.KeepsTo key range := fun op member =>
        only op (by simpa [begun] using Or.inl member)
      have keepsTo : op.KeepsTo key range := only op (by simp [begun])
      rw [(Machine.start_of_step? performs stepped).1] at holder
      rcases tendsTo_start coherent op holder with ⟨earlier, stands, later, left, tends⟩
      have known : Attended key bounds last (State.initial clock script) state id earlier := by
        cases stands with
        | found holder found => exact attended id earlier holder found
        | made absent policy => exact attended_of_made built reaches before keepsTo absent policy
      exact ⟨_, _, _, _, tendedBy_start known coherent stands tends left holder performs stepped⟩
  | ask _ => exact .inl ⟨rfl, rfl⟩
  | @resume reply op frame rest below returns waits =>
      right
      have recorded := Machine.settle_trace { state with stack := below } op rest
        (machine.resume frame reply state.store)
      rw [Machine.settle_store] at holder
      have held := holder_of_resume holder
      rcases coherent.sound.debouncer? (Registry.mem_ids_of_find? held) with ⟨earlier, found⟩
      rcases tendsTo_resume coherent found frame reply with ⟨later, left, tends⟩
      refine ⟨none, _, earlier, later, attended id earlier held found,
        coherent.minds id earlier found, tends, left, Machine.settle_store _ _ _ _,
        ⟨_, recorded, fun notice => Effect.event_mem_moments⟩, ?_, by simp, ?_⟩
      · rw [recorded]
        exact latest?_of_begun (begun_moments _ op _)
      · exact fun frame work entered => Machine.settle_script_of_enter _ _ _ _ entered

/-- In every state of a run in which a key is only called for a range, this is known of its
debouncer. -/
theorem attended_of_reaches (built : (Guard.debounceFor range).settings = .ok (.forRange bounds))
    (limit : bounds.limit? = some last) (inRange : (Settings.forRange bounds).InRange)
    (comparable : clock ≤ clock) (reaches : machine.Reaches (State.initial clock script) state)
    (only : ∀ op ∈ begun state.trace, op.KeepsTo key range)
    (holder : state.store.registry.find? key = some id)
    (found : state.store.registry.debouncer? id = some debouncer) :
    Attended key bounds last (State.initial clock script) state id debouncer := by
  induction reaches generalizing id debouncer with
  | refl => cases holder
  | @step middle next reaches stepped ih =>
      have grows : begun middle.trace ⊆ begun next.trace :=
        ((Machine.step_of_step? stepped).record_grows.filterMap _).subset
      have before (id : DebouncerId) (debouncer : Member τ) :=
        @ih id debouncer fun op member => only op (grows member)
      rcases tendedBy_of_step built reaches before stepped only holder with
        ⟨store, trace⟩ | ⟨called?, outcome, earlier, later, tended⟩
      · rw [store] at holder found
        have attended := before id debouncer holder found
        refine ⟨attended.policy, trace ▸ attended.work, store ▸ attended.inTime, fun held => ?_⟩
        rcases attended.opened held with ⟨stamp, stamped, opened⟩
        exact ⟨stamp, stamped, opened.step stepped (by rw [trace, List.append_nil]) (by simp)⟩
      · rw [tended.store] at found
        cases tended.left.symm.trans found
        have numbers := comparable_of_reaches comparable reaches
        exact tended.attends limit inRange numbers reaches stepped

/-- Where a key is only called for a range, the begin and the end of the range bound how long the
calls hold the work back. In every state of a run the pending timer of the key is set for an instant
between the begin and the end after the call that opened the period. Every execution that is no
flush runs the work that was supplied last, at a clock reading between the begin and the end after
that call, however many calls there are and whatever the works do. -/
theorem calls_hold_back_within_range (clock : τ) (script : Script (Op τ) (Reply τ))
    (state : State τ) (key range : Value) (settings : Settings) (bounds : Interval)
    (last : Duration) (built : (Guard.debounceFor range).settings = .ok settings)
    (interval : settings.interval = some bounds) (limit : bounds.limit? = some last)
    (inRange : settings.InRange) (comparable : clock ≤ clock)
    (reaches : machine.Reaches (State.initial clock script) state)
    (only : ∀ op ∈ begun state.trace, op.KeepsTo key range) :
    (∀ id debouncer time, state.store.registry.find? key = some id →
      state.store.registry.debouncer? id = some debouncer →
      debouncer.timerStatus? state.store.agenda = some ⟨true, time⟩ →
      ∃ stamp, OpenedAt key id (State.initial clock script) state stamp ∧
        stamp + bounds.begin.seconds ≤ time ∧ time ≤ stamp + last.seconds) ∧
    ∀ next id name cause, machine.Records state next (.event ⟨id, .executed name cause⟩) →
      next.store.registry.find? key = some id → cause ≠ .flush →
      (∀ op ∈ begun next.trace, op.KeepsTo key range) →
      ∃ work stamp, latest? key next.trace = some work ∧ next.script = work.body {} ∧
        machine.Records state next
          (.event ⟨id, .ran work.id work.name next.store.agenda.now []⟩) ∧
        OpenedAt key id (State.initial clock script) state stamp ∧
        stamp + bounds.begin.seconds ≤ next.store.agenda.now ∧
        next.store.agenda.now ≤ stamp + last.seconds := by
  obtain rfl := Guard.settings_eq_forRange built interval
  constructor
  · intro id debouncer time holder found status
    have attended := attended_of_reaches built limit inRange comparable reaches only holder found
    have minds := (coherent_of_reaches reaches).minds id debouncer found
    rcases Debouncer.awaits_of_timerStatus? minds.stamped status with ⟨place, stamp, awaits⟩
    rcases attended.opened (Option.isSome_of_eq_some awaits.timer) with ⟨begun, stamped, opened⟩
    cases stamped.symm.trans awaits.stamped
    have inTime := attended.inTime place time stamp awaits
    exact ⟨stamp, opened, inTime.begins, inTime.ends⟩
  · intro next id name cause records holder other stillOnly
    rcases records with ⟨stepped, moments, grown, member⟩
    have numbers := comparable_of_reaches comparable reaches
    have attended (id : DebouncerId) (debouncer : Member τ)
        (holder : state.store.registry.find? key = some id)
        (found : state.store.registry.debouncer? id = some debouncer) :=
      attended_of_reaches built limit inRange comparable reaches only holder found
    rcases tendedBy_of_step built reaches attended stepped stillOnly holder with
      ⟨_, trace⟩ | ⟨called?, outcome, earlier, later, tended⟩
    · obtain rfl : moments = [] := by simpa [trace] using grown
      cases member
    · rcases tended.recorded with ⟨_, recorded, told⟩
      cases List.append_cancel_left (grown.symm.trans recorded)
      obtain ⟨work, stamp, frame, held, pending, stamped, enters, ran, within⟩ :=
        tended.tends.executes tended.attended.policy inRange tended.attended.inTime tended.minds
          ((told _).mp member) other
      rcases tended.attended.opened pending with ⟨begun, sameStamp, opened⟩
      cases sameStamp.symm.trans stamped
      have latest := (tended.attends limit inRange numbers reaches stepped).work
      rw [tended.store]
      exact ⟨work, stamp, latest.symm.trans held, tended.enters frame work enters,
        ⟨stepped, moments, grown, (told _).mpr ran⟩, opened, within⟩

end Runs

/-! ## A run -/

/-- A call that debounces for the range, or no call at all. -/
def Op.isForRange (bounds : Interval) : Op Float → Bool
  | .guarded (.debounceFor (.interval given)) _ _ => given = bounds
  | op => op.call?.isNone

theorem keepsTo_of_isForRange {bounds : Interval} {op : Op Float} {key : Value}
    (check : op.isForRange bounds = true) : op.KeepsTo key (.interval bounds) := by
  rw [Op.isForRange.eq_def] at check
  split at check
  · next given used work? =>
      obtain rfl : given = bounds := by simpa using check
      exact fun _ => ⟨used, work?, rfl⟩
  · intro calls
    rw [callOn?_of_none (by simpa using check)] at calls
    cases calls

theorem only_of_isForRange {bounds : Interval} {history : History Float} {key : Value}
    (checked : (begun history).all (Op.isForRange bounds) = true) :
    ∀ op ∈ begun history, op.KeepsTo key (.interval bounds) :=
  fun op member => keepsTo_of_isForRange (List.all_eq_true.mp checked op member)

/-- The debouncer whose execution is told, and the cause. -/
def Moment.execution? :
    Moment (Op Float) (Reply Float) (Notice Float) → Option (DebouncerId × Cause)
  | .event ⟨id, .executed _ cause⟩ => some (id, cause)
  | _ => none

theorem Moment.eq_of_execution? {moment : Moment (Op Float) (Reply Float) (Notice Float)}
    {id : DebouncerId} {cause : Cause} (told : Moment.execution? moment = some (id, cause)) :
    ∃ name, moment = .event ⟨id, .executed name cause⟩ := by
  rw [Moment.execution?.eq_def] at told
  split at told
  · cases told
    exact ⟨_, rfl⟩
  · cases told

/-- Three calls come closer together than the begin of the range. The timer that the first one
started is moved by the others, but not beyond the end of the range, and the last work runs then. -/
theorem calls_hold_back_within_range_of_three :
    let range : Value := .interval .oneToTwo
    let key : Value := .text "burst"
    let first := State.initial (0 : Float)
      (.before [.guarded (.debounceFor range) key (some (.resting [0])), .advance (.ok 0.75),
        .guarded (.debounceFor range) key (some (.resting [1])), .advance (.ok 0.75),
        .guarded (.debounceFor range) key (some (.resting [2])), .advance (.ok 0.75)]
        (.done (.ok .nothing)))
    let state := machine.run 5 first
    machine.Reaches first state ∧ (∀ op ∈ begun state.trace, op.KeepsTo key range) ∧
      (∃ stamp, OpenedAt key 0 first state stamp ∧
        stamp + (Duration.ofSeconds 1).seconds ≤ (2 : Float) ∧
        (2 : Float) ≤ stamp + (Duration.ofSeconds 2).seconds) ∧
      ∃ next work stamp, machine.step? state = some next ∧ next.store.agenda.now = 2 ∧
        latest? key next.trace = some work ∧ work.id = [2] ∧ next.script = work.body {} ∧
        OpenedAt key 0 first state stamp ∧
        stamp + (Duration.ofSeconds 1).seconds ≤ next.store.agenda.now ∧
        next.store.agenda.now ≤ stamp + (Duration.ofSeconds 2).seconds := by
  intro range key first state
  have inRange : (Settings.forRange .oneToTwo).InRange := by
    constructor
    · intro interval bounds
      obtain rfl := Option.some.inj bounds
      decide
    · intro interval last bounds limit
      obtain rfl := Option.some.inj bounds
      obtain rfl := Option.some.inj limit
      decide
    · intro idle given
      obtain rfl := Option.some.inj given
      decide
  have reaches := Machine.reaches_run machine 5 first
  have comparable : (0 : Float) ≤ 0 := by decide +kernel
  have only : ∀ op ∈ begun state.trace, op.KeepsTo key range :=
    only_of_isForRange (by decide +kernel)
  have bounded := calls_hold_back_within_range 0 _ state key range _ _ _
    (Guard.settings_of_interval .oneToTwo) rfl rfl inRange comparable reaches only
  refine ⟨reaches, only, ?_, ?_⟩
  · have holder : state.store.registry.find? key = some 0 := by decide +kernel
    have pending : (state.store.registry.debouncer? 0).map (fun debouncer =>
        debouncer.timerStatus? state.store.agenda) = some (some ⟨true, 2⟩) := by decide +kernel
    rcases Option.map_eq_some_iff.mp pending with ⟨debouncer, found, status⟩
    exact bounded.1 0 debouncer 2 holder found status
  · have clock : (machine.step? state).map (fun next => next.store.agenda.now) = some 2 := by
      decide +kernel
    have held : (machine.step? state).map (fun next => next.store.registry.find? key) =
        some (some 0) := by decide +kernel
    have supplied : (machine.step? state).map (fun next => (latest? key next.trace).map Work.id) =
        some (some [2]) := by decide +kernel
    have checked : (machine.step? state).map (fun next =>
        (begun next.trace).all (Op.isForRange .oneToTwo)) = some true := by decide +kernel
    have executed : (machine.step? state).map (fun next =>
        (next.trace.drop state.trace.length).filterMap Moment.execution?) =
        some [(0, .timer 0)] := by decide +kernel
    rcases Option.map_eq_some_iff.mp clock with ⟨next, stepped, now⟩
    simp only [stepped, Option.map_some, Option.some.injEq] at held supplied checked executed
    rcases (Machine.step_of_step? stepped).record_grows with ⟨moments, recorded⟩
    rw [← recorded, List.drop_left] at executed
    obtain ⟨moment, member, told⟩ := List.mem_filterMap.mp (executed ▸ List.mem_singleton_self _)
    rcases Moment.eq_of_execution? told with ⟨name, rfl⟩
    obtain ⟨work, stamp, latest, enters, _, opened, within⟩ :=
      bounded.2 next 0 name (.timer 0) ⟨stepped, moments, recorded.symm, member⟩ held nofun
        (only_of_isForRange checked)
    have third : work.id = [2] := by simpa [latest] using supplied
    exact ⟨next, work, stamp, stepped, now, latest, third, enters, opened, within⟩

end Debounce.RegistrySession
