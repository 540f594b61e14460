import Debounce.Proofs.VirtualTime

/-!
# One-shot timers

A timer ends once: it is cancelled, or it is claimed, directly or by the advance that runs its
callback. After that it stays as it is. So the timers that were ever set are the pending ones and
those that have ended, and a scheduler may forget those that have ended whenever it likes.
-/

namespace Debounce

/-- The change ends a timer, and tells whether the timer was pending. -/
structure Timer.Stops {τ κ : Type} (change : Timer τ κ → Bool × Timer τ κ) : Prop where
  tells : ∀ timer, (change timer).1 = timer.active
  ends : ∀ timer, (change timer).2.active = false

theorem Timer.stops_cancel {τ κ : Type} : Stops (cancel : Timer τ κ → Bool × Timer τ κ) :=
  ⟨cancel_outcome, active_cancel⟩

theorem Timer.stops_claim {τ κ : Type} : Stops (claim : Timer τ κ → Bool × Timer τ κ) :=
  ⟨claim_outcome, active_claim⟩

namespace Agenda

variable {τ κ : Type} {agenda : Agenda τ κ} {id : TimerId}

theorem isPending_eq_true :
    agenda.isPending id = true ↔ ∃ timer, agenda.get? id = some timer ∧ timer.active = true := by
  rw [isPending, Option.any_eq_true]

/-- The timer has been set, and is not pending any more. -/
def Ended (agenda : Agenda τ κ) (id : TimerId) : Prop :=
  ∃ timer, agenda.get? id = some timer ∧ timer.active = false

theorem Ended.not_pending (ended : agenda.Ended id) : agenda.isPending id = false := by
  obtain ⟨timer, stored, inactive⟩ := ended
  simp [isPending, stored, inactive]

theorem pendingCount_add (agenda : Agenda τ κ) (time : τ) (callback : κ) :
    (agenda.add time callback).2.pendingCount = agenda.pendingCount + 1 := by
  simp [add, pendingCount, Timer.active]

/-- A change of one timer shows in the count of pending timers. -/
theorem pendingCount_update {timer : Timer τ κ} (stored : agenda.get? id = some timer)
    (change : Timer τ κ → Bool × Timer τ κ) :
    (agenda.update id change).2.pendingCount + timer.active.toNat =
      agenda.pendingCount + (change timer).2.active.toNat := by
  obtain ⟨below, rfl⟩ := List.getElem?_eq_some_iff.mp stored
  simp only [update, List.getElem?_eq_getElem below, pendingCount, List.countP_set below]
  cases active : agenda.timers[id].active with
  | false => cases (change agenda.timers[id]).2.active <;> simp
  | true =>
      have counted : 0 < agenda.timers.countP Timer.active :=
        List.countP_pos_iff.mpr ⟨_, List.getElem_mem below, active⟩
      cases (change agenda.timers[id]).2.active <;> simp <;> omega

/-- A timer that is ended was counted if it was pending. -/
theorem pendingCount_update_of_stops (agenda : Agenda τ κ) (id : TimerId)
    {change : Timer τ κ → Bool × Timer τ κ} (stops : Timer.Stops change) :
    (agenda.update id change).2.pendingCount + (agenda.update id change).1.toNat =
      agenda.pendingCount := by
  rw [update_outcome]
  cases stored : agenda.get? id with
  | none =>
      have absent : agenda.timers[id]? = none := stored
      simp [update, absent]
  | some timer =>
      have counted := pendingCount_update stored change
      rw [stops.ends] at counted
      simpa [stops.tells] using counted

@[simp] theorem length_update (agenda : Agenda τ κ) (id : TimerId)
    (change : Timer τ κ → Bool × Timer τ κ) :
    (agenda.update id change).2.timers.length = agenda.timers.length := by
  rw [update]
  split
  · rfl
  · exact List.length_set

@[simp] theorem pendingCount_reschedule (agenda : Agenda τ κ) (id : TimerId) (time : τ) :
    (agenda.reschedule id time).pendingCount = agenda.pendingCount := by
  rw [reschedule]
  cases stored : agenda.get? id with
  | none =>
      have absent : agenda.timers[id]? = none := stored
      simp [update, absent]
  | some timer =>
      have counted := pendingCount_update stored fun timer => (timer.active, timer.reschedule time)
      simpa using counted

/-- Firing the next timer leaves the other ones as they are. -/
theorem get?_of_fireNext? [Instant τ] {deadline : τ} {timer : Timer τ κ} {fired : Agenda τ κ}
    (found : agenda.fireNext? deadline = some (id, timer, fired)) (other : TimerId) :
    fired.get? other = if other = id then some timer.claim.2 else agenda.get? other := by
  obtain ⟨stored, _, _, claimed⟩ := fireNext?_eq_some found
  have same : fired.get? other = (agenda.claim id).2.get? other := by
    rw [claimed]
    rfl
  rw [same, claim, get?_update, stored, Option.map_some]

/-- The places of the timers that have been set since. -/
def added (before after : Agenda τ κ) : List TimerId :=
  (List.range after.timers.length).drop before.timers.length

theorem added_of_length_eq {before after : Agenda τ κ}
    (same : after.timers.length = before.timers.length) : before.added after = [] := by
  simp [added, same]

theorem added_add (agenda : Agenda τ κ) (time : τ) (callback : κ) :
    agenda.added (agenda.add time callback).2 = [agenda.timers.length] := by
  simp [added, add, List.range_succ]

theorem range_eq_append_added {before after : Agenda τ κ}
    (longer : before.timers.length ≤ after.timers.length) :
    List.range after.timers.length =
      List.range before.timers.length ++ before.added after := by
  have whole := List.take_append_drop before.timers.length (List.range after.timers.length)
  rw [List.take_range, Nat.min_eq_left longer] at whole
  exact whole.symm

/-- To count the pending timers is to count the places where one is pending. -/
theorem pendingCount_eq_countP_range (agenda : Agenda τ κ) :
    agenda.pendingCount = (List.range agenda.timers.length).countP agenda.isPending := by
  have places : (List.range agenda.timers.length).map (agenda.get? ·) = agenda.timers.map some := by
    apply List.ext_getElem?
    intro place
    by_cases below : place < agenda.timers.length <;> simp [get?, below]
  have counted := congrArg (List.countP (·.any Timer.active)) places
  rw [List.countP_map, List.countP_map] at counted
  exact counted.symm

end Agenda

namespace TimerSession

variable {τ : Type}

/-! ## The balance -/

/-- A timer is set here. -/
def Moment.sets : Moment (Op τ) (Reply τ) (Event τ) → Bool
  | .ended (.schedule _ _ _) (.ok _) _ => true
  | _ => false

/-- A timer is cancelled here. -/
def Moment.cancels : Moment (Op τ) (Reply τ) (Event τ) → Bool
  | .ended (.cancel _) (.ok (.flag cancelled)) _ => cancelled
  | _ => false

/-- A timer is claimed here, directly or by an advance. -/
def Moment.claims : Moment (Op τ) (Reply τ) (Event τ) → Bool
  | .ended (.claim _) (.ok (.flag claimed)) _ => claimed
  | .event (.timerFired _ _) => true
  | _ => false

theorem moments_runCallback (store : Store τ) (callback : Callback τ) (frame : Frame τ)
    (events : List (Event τ)) (op : Op τ) (depth : Nat) :
    (runCallback store callback frame events).moments op depth =
      events.map .event ++ (runCallback store callback frame []).moments op depth := by
  cases callback <;> simp [runCallback, answer, Effect.moments]

/-- The timers that are pending before and those that are set in between are as many as those that
are pending after and those that are cancelled or claimed in between. -/
def Balanced (before after : Agenda τ (Callback τ)) (between : History τ) : Prop :=
  before.pendingCount + between.countP Moment.sets =
    after.pendingCount + between.countP Moment.cancels + between.countP Moment.claims

section Balanced

variable {before middle after : Agenda τ (Callback τ)} {earlier later : History τ}

theorem Balanced.append (first : Balanced before middle earlier)
    (second : Balanced middle after later) : Balanced before after (earlier ++ later) := by
  rw [Balanced] at *
  rw [List.countP_append, List.countP_append, List.countP_append]
  omega

theorem Balanced.began (balanced : Balanced before after later) (op : Op τ) (depth : Nat) :
    Balanced before after (.began op depth :: later) := by
  simpa [Balanced, Moment.sets, Moment.cancels, Moment.claims] using balanced

theorem balanced_singleton {moment : Moment (Op τ) (Reply τ) (Event τ)} :
    Balanced before after [moment] ↔
      before.pendingCount + (Moment.sets moment).toNat =
        after.pendingCount + (Moment.cancels moment).toNat + (Moment.claims moment).toNat := by
  simp only [Balanced, List.countP_singleton]
  cases Moment.sets moment <;> cases Moment.cancels moment <;> cases Moment.claims moment <;> rfl

end Balanced

section Sections

variable {store : Store τ} {op : Op τ} {depth : Nat}

theorem balanced_answer {agenda : Agenda τ (Callback τ)} {reply : Reply τ}
    (counted : agenda.pendingCount + (Moment.sets (.ended op reply depth)).toNat =
      store.agenda.pendingCount + (Moment.cancels (.ended op reply depth)).toNat +
        (Moment.claims (.ended op reply depth)).toNat) :
    Balanced agenda (answer store reply).store.agenda ((answer store reply).moments op depth) :=
  balanced_singleton.mpr counted

/-- What an operation records that runs a callback does not count. -/
theorem balanced_runCallback (store : Store τ) (lasting : op.timeless = false)
    (callback : Callback τ) (frame : Frame τ) :
    Balanced store.agenda store.agenda
      ((runCallback store callback frame []).moments op depth) := by
  cases callback with
  | some work => exact balanced_singleton.mpr rfl
  | none =>
      cases op with
      | fire | advance => exact balanced_singleton.mpr rfl
      | _ => cases lasting

theorem balanced_withTimer {label : String} {use : TimerId → Timer τ (Callback τ) → Outcome τ}
    (missing : Balanced store.agenda store.agenda [.ended op (.ok .missing) depth])
    (uses : ∀ id timer, Balanced store.agenda (use id timer).store.agenda
      ((use id timer).moments op depth)) :
    Balanced store.agenda (withTimer store label use).store.agenda
      ((withTimer store label use).moments op depth) := by
  rw [withTimer]
  split
  · exact missing
  · exact uses _ _

variable [Instant τ]

theorem balanced_sweep (lasting : op.timeless = false) (deadline : τ) (fired : Nat) :
    Balanced store.agenda (sweep store deadline fired).store.agenda
      ((sweep store deadline fired).moments op depth) := by
  rw [sweep]
  split
  · apply balanced_answer
    cases op with
    | fire | advance => rfl
    | _ => cases lasting
  · next id timer agenda found =>
      obtain ⟨stored, active, _, claimed⟩ := Agenda.fireNext?_eq_some found
      have counted := Agenda.pendingCount_update stored Timer.claim
      rw [active, Timer.active_claim] at counted
      have fires : Balanced store.agenda agenda [.event (.timerFired id timer.executionTime)] := by
        rw [claimed]
        exact balanced_singleton.mpr counted.symm
      rw [runCallback_store, moments_runCallback]
      exact fires.append (balanced_runCallback { store with agenda := agenda } lasting _ _)

/-- Whatever an operation does when it begins, it keeps the balance. -/
theorem balanced_start (op : Op τ) :
    Balanced store.agenda (start op store).store.agenda ((start op store).moments op depth) := by
  cases op with
  | schedule label delay work? =>
      cases delay with
      | error fault => exact balanced_answer rfl
      | ok delay => exact balanced_answer (Agenda.pendingCount_add _ _ _).symm
  | cancel label =>
      apply balanced_withTimer (balanced_singleton.mpr rfl)
      intro id timer
      exact balanced_answer (store.agenda.pendingCount_update_of_stops id Timer.stops_cancel).symm
  | reschedule label time =>
      apply balanced_withTimer (balanced_singleton.mpr rfl)
      intro id timer
      cases time with
      | error fault => exact balanced_answer rfl
      | ok time => exact balanced_answer (Agenda.pendingCount_reschedule _ id time).symm
  | claim label =>
      apply balanced_withTimer (balanced_singleton.mpr rfl)
      intro id timer
      exact balanced_answer (store.agenda.pendingCount_update_of_stops id Timer.stops_claim).symm
  | fire label =>
      apply balanced_withTimer (balanced_singleton.mpr rfl)
      intro id timer
      rw [runCallback_store]
      exact balanced_runCallback store rfl timer.callback .firing
  | advance delay =>
      cases delay with
      | error fault => exact balanced_answer rfl
      | ok delay => exact balanced_sweep rfl _ 0
  | now => exact balanced_answer rfl

/-- So does an operation that goes on. -/
theorem balanced_resume (lasting : op.timeless = false) (frame : Frame τ) (reply : Reply τ) :
    Balanced store.agenda (resume frame reply store).store.agenda
      ((resume frame reply store).moments op depth) := by
  have ends (answered : Reply τ) :
      Balanced store.agenda store.agenda [.ended op answered depth] := by
    cases op with
    | fire | advance => exact balanced_singleton.mpr rfl
    | _ => cases lasting
  cases reply with
  | error fault => exact ends _
  | ok value =>
      cases frame with
      | firing => exact ends _
      | advancing deadline fired => exact balanced_sweep lasting deadline fired

/-- The operations that do not run callbacks are over at once. -/
theorem lasting_of_frame {frame : Frame τ} (goesOn : (start op store).next.frame? = some frame) :
    op.timeless = false := by
  cases timeless : op.timeless with
  | false => rfl
  | true =>
      have adjusts : Adjusts store op (start op store) := adjusts_start timeless
      obtain ⟨reply, finishes⟩ := adjusts.finishes
      rw [finishes] at goesOn
      cases goesOn

theorem balanced_of_reaches {clock : τ} {script : Script (Op τ) (Reply τ)} {state : State τ}
    (reaches : machine.Reaches (State.initial clock script) state) :
    Balanced { now := clock } state.store.agenda state.trace := by
  refine reaches.keeps_suspended (fun op => op.timeless = false)
    (fun store trace => Balanced { now := clock } store.agenda trace) ?_ ?_ ?_ rfl rfl
  · intro op store frame goesOn
    exact lasting_of_frame goesOn
  · intro op depth store trace balanced
    exact balanced.append ((balanced_start op).began op depth)
  · intro op frame reply depth store trace lasting balanced
    exact balanced.append (balanced_resume lasting frame reply)

end Sections

/-! ## The end of a timer -/

variable [Instant τ]

/-- The timer ends in the step. -/
inductive Ends (id : TimerId) (before after : State τ) : Prop where
  | cancelled {label : String} {next : Reply τ → Script (Op τ) (Reply τ)} {depth : Nat} :
      before.script = .step (.cancel label) next → before.store.labels.get? label = some id →
      machine.Records before after (.ended (.cancel label) (.ok (.flag true)) depth) →
      Ends id before after
  | claimed {label : String} {next : Reply τ → Script (Op τ) (Reply τ)} {depth : Nat} :
      before.script = .step (.claim label) next → before.store.labels.get? label = some id →
      machine.Records before after (.ended (.claim label) (.ok (.flag true)) depth) →
      Ends id before after
  /-- An advance is about to run its callback. -/
  | fired {time : τ} : machine.Records before after (.event (.timerFired id time)) →
      Ends id before after

section Ends

variable {before after : State τ} {id : TimerId}

theorem ended_of_stops {op : Op τ} {label : String} {next : Reply τ → Script (Op τ) (Reply τ)}
    {depth : Nat} {change : Timer τ (Callback τ) → Bool × Timer τ (Callback τ)}
    (stops : Timer.Stops change)
    (acts : start op before.store = withTimer before.store label fun id _ =>
      answer { before.store with agenda := (before.store.agenda.update id change).2 }
        (.ok (.flag (before.store.agenda.update id change).1)))
    (script : before.script = .step op next) (labelled : before.store.labels.get? label = some id)
    (records : machine.Records before after (.ended op (.ok (.flag true)) depth)) :
    before.store.agenda.isPending id = true ∧ after.store.agenda.Ended id := by
  obtain ⟨finishes, left⟩ := records.finishes script
  have started : machine.start op before.store = start op before.store := rfl
  rw [started, acts, withTimer, labelled] at finishes left
  cases stored : before.store.agenda.get? id with
  | none => simp [stored, answer] at finishes
  | some timer =>
      simp only [stored, Option.bind_some, Option.map_some] at finishes left
      have active : timer.active = true := by
        simpa [answer, Agenda.update_outcome, stored, stops.tells] using finishes
      constructor
      · exact Agenda.isPending_eq_true.mpr ⟨timer, stored, active⟩
      · refine ⟨(change timer).2, ?_, stops.ends timer⟩
        rw [left]
        simp [answer, Agenda.get?_update, stored]

/-- A timer that ends was pending until then. -/
theorem Ends.ended (ends : Ends id before after) :
    before.store.agenda.isPending id = true ∧ after.store.agenda.Ended id := by
  cases ends with
  | cancelled script labelled records =>
      exact ended_of_stops Timer.stops_cancel rfl script labelled records
  | claimed script labelled records =>
      exact ended_of_stops Timer.stops_claim rfl script labelled records
  | fired records =>
      obtain ⟨config, op, next, outcome, passage, reported, rfl⟩ :=
        records.reported (Passage before.store) (passage_start · _) (passage_resume · · _)
      obtain ⟨deadline, count, timer, agenda, found, _, rfl⟩ := passage.fired_of_mem reported
      obtain ⟨stored, active, _⟩ := Agenda.fireNext?_eq_some found
      constructor
      · exact Agenda.isPending_eq_true.mpr ⟨timer, stored, active⟩
      · refine ⟨timer.claim.2, ?_, timer.active_claim⟩
        rw [Machine.settle_store, runCallback_store, Agenda.get?_of_fireNext? found, if_pos rfl]

/-- What has ended stays as it is. -/
theorem Passage.get?_of_ended {store : Store τ} {outcome : Outcome τ}
    (passage : Passage store outcome) {timer : Timer τ (Callback τ)}
    (stored : store.agenda.get? id = some timer) (ended : timer.active = false) :
    outcome.store.agenda.get? id = some timer := by
  cases passage with
  | answered | arrived _ => exact stored
  | set =>
      have below := (List.getElem?_eq_some_iff.mp stored).1
      rw [answer, Agenda.get?_add, if_neg (Nat.ne_of_lt below), stored]
  | @changed place change reply leaves =>
      rw [answer, Agenda.get?_update]
      split
      · next same => rw [← same, stored, Option.map_some, leaves timer ended]
      · exact stored
  | called => simpa using stored
  | @fired deadline count place other agenda found =>
      rw [runCallback_store, Agenda.get?_of_fireNext? found, if_neg]
      · exact stored
      · rintro rfl
        obtain ⟨pending, active, _⟩ := Agenda.fireNext?_eq_some found
        obtain rfl := Option.some.inj (stored.symm.trans pending)
        simp [ended] at active

theorem get?_of_ended {timer : Timer τ (Callback τ)} (reaches : machine.Reaches before after)
    (stored : before.store.agenda.get? id = some timer) (ended : timer.active = false) :
    after.store.agenda.get? id = some timer := by
  apply keeps_store reaches (fun store => store.agenda.get? id = some timer) ?_ stored
  intro store outcome passage unchanged
  exact passage.get?_of_ended unchanged ended

theorem not_ends_of_ended (ended : before.store.agenda.Ended id)
    (reaches : machine.Reaches before after) (last : State τ) : ¬ Ends id after last := by
  obtain ⟨timer, stored, inactive⟩ := ended
  intro ends
  obtain ⟨same, pending, active⟩ := Agenda.isPending_eq_true.mp ends.ended.1
  rw [get?_of_ended reaches stored inactive] at pending
  obtain rfl := Option.some.inj pending
  simp [inactive] at active

end Ends

/-! ## The list of timers -/

/-- A list of timers is kept through a run: new timers are added at its end, and at any point some
may be dropped that are not pending. -/
inductive Listed (clock : τ) (script : Script (Op τ) (Reply τ)) :
    State τ → List TimerId → Prop where
  | initial : Listed clock script (State.initial clock script) []
  | step {before after : State τ} {listed : List TimerId} :
      Listed clock script before listed → machine.step? before = some after →
      Listed clock script after (listed ++ before.store.agenda.added after.store.agenda)
  | purge {state : State τ} {listed left : List TimerId} :
      Listed clock script state listed → left.Sublist listed →
      (∀ id ∈ listed, state.store.agenda.isPending id = true → id ∈ left) →
      Listed clock script state left

theorem Passage.length_le {store : Store τ} {outcome : Outcome τ}
    (passage : Passage store outcome) :
    store.agenda.timers.length ≤ outcome.store.agenda.timers.length := by
  cases passage with
  | answered | arrived _ => exact Nat.le_refl _
  | set => simp [answer, Agenda.add]
  | changed _ => simp [answer]
  | called => simp
  | fired found =>
      obtain ⟨_, _, _, claimed⟩ := Agenda.fireNext?_eq_some found
      simp [claimed, Agenda.claim]

section Listed

variable {clock : τ} {script : Script (Op τ) (Reply τ)} {before after : State τ}
variable {listed : List TimerId} {id : TimerId}

/-- Only a new timer becomes pending. -/
theorem isPending_of_step (stepped : machine.step? before = some after)
    (pending : after.store.agenda.isPending id = true)
    (old : id < before.store.agenda.timers.length) : before.store.agenda.isPending id = true := by
  obtain ⟨timer, stored, active⟩ := Agenda.isPending_eq_true.mp pending
  have found : before.store.agenda.get? id = some before.store.agenda.timers[id] :=
    List.getElem?_eq_getElem old
  cases phase : before.store.agenda.timers[id].active with
  | true => exact Agenda.isPending_eq_true.mpr ⟨_, found, phase⟩
  | false =>
      have same := get?_of_ended (Machine.Reaches.refl.step stepped) found phase
      obtain rfl := Option.some.inj (stored.symm.trans same)
      simp [phase] at active

theorem range_of_step (stepped : machine.step? before = some after) :
    List.range after.store.agenda.timers.length =
      List.range before.store.agenda.timers.length ++
        before.store.agenda.added after.store.agenda := by
  apply Agenda.range_eq_append_added
  exact keeps_store (Machine.Reaches.refl.step stepped)
    (fun store => before.store.agenda.timers.length ≤ store.agenda.timers.length)
    (fun _ _ passage shorter => shorter.trans passage.length_le) (Nat.le_refl _)

/-- The list is in the order of creation, and no pending timer is missing. -/
theorem Listed.complete (lists : Listed clock script before listed) :
    listed.Sublist (List.range before.store.agenda.timers.length) ∧
      ∀ id, before.store.agenda.isPending id = true → id ∈ listed := by
  induction lists with
  | initial =>
      refine ⟨List.nil_sublist _, ?_⟩
      simp [State.initial, Store.new, Agenda.isPending, Agenda.get?]
  | step _ stepped ih =>
      have whole := range_of_step stepped
      constructor
      · rw [whole]
        exact ih.1.append_right _
      · intro id pending
        obtain ⟨timer, stored, _⟩ := Agenda.isPending_eq_true.mp pending
        have known := List.mem_range.mpr (List.getElem?_eq_some_iff.mp stored).1
        rw [whole] at known
        rcases List.mem_append.mp known with old | new
        · have pendingBefore := isPending_of_step stepped pending (List.mem_range.mp old)
          exact List.mem_append_left _ (ih.2 id pendingBefore)
        · exact List.mem_append_right _ new
  | purge _ shorter kept ih =>
      exact ⟨shorter.trans ih.1, fun id pending => kept id (ih.2 id pending) pending⟩

/-- A scheduler may keep all timers. -/
theorem listed_range (reaches : machine.Reaches (State.initial clock script) after) :
    Listed clock script after (List.range after.store.agenda.timers.length) := by
  induction reaches with
  | refl => exact .initial
  | step _ stepped ih =>
      rw [range_of_step stepped]
      exact ih.step stepped

/-- To count the pending timers in the list is to count all pending ones. -/
theorem Listed.countP_eq_pendingCount (lists : Listed clock script before listed) :
    listed.countP before.store.agenda.isPending = before.store.agenda.pendingCount := by
  obtain ⟨ordered, complete⟩ := lists.complete
  rw [Agenda.pendingCount_eq_countP_range]
  apply Nat.le_antisymm ordered.countP_le
  rw [List.countP_eq_length_filter, List.countP_eq_length_filter]
  apply (List.subperm_of_subset (List.nodup_range.filter _) ?_).length_le
  intro id member
  have pending := (List.mem_filter.mp member).2
  exact List.mem_filter.mpr ⟨complete id pending, pending⟩

end Listed

/-- Timers are conserved, whatever is set, moved, cancelled, claimed and advanced, also by
callbacks, and whatever fails: those that have been set are those that are pending, those that
have been cancelled and those that have been claimed. It is enough to look for the pending ones in
a list from which others are dropped. A timer ends once at most, and stays as it is then. -/
theorem timers_end_once (clock : τ) (script : Script (Op τ) (Reply τ)) (state : State τ)
    (reaches : machine.Reaches (State.initial clock script) state) :
    state.trace.countP Moment.sets = state.store.agenda.pendingCount +
        state.trace.countP Moment.cancels + state.trace.countP Moment.claims ∧
    (∀ listed, Listed clock script state listed →
      listed.countP state.store.agenda.isPending = state.store.agenda.pendingCount) ∧
    (∀ id next, Ends id state next →
      state.store.agenda.isPending id = true ∧ next.store.agenda.isPending id = false ∧
      ∀ later last, machine.Reaches next later → ¬ Ends id later last) ∧
    ∀ id timer, state.store.agenda.get? id = some timer → timer.active = false →
      ∀ later, machine.Reaches state later → later.store.agenda.get? id = some timer := by
  refine ⟨?_, fun listed lists => lists.countP_eq_pendingCount, ?_, ?_⟩
  · have balanced := balanced_of_reaches reaches
    rw [Balanced] at balanced
    simpa [Agenda.pendingCount] using balanced
  · intro id next ends
    obtain ⟨pending, ended⟩ := ends.ended
    exact ⟨pending, ended.not_pending, fun later last reached =>
      not_ends_of_ended ended reached last⟩
  · intro id timer stored ended later reached
    exact get?_of_ended reached stored ended

/-- A work that cancels one timer, tries so again, claims another one and advances the clock. -/
def meddling : Work (Op Float) (Reply Float) where
  id := [2]
  name := "meddles"
  body _ := .before [.cancel "soon", .cancel "soon", .claim "later", .advance (.ok 1)]
    (.done (.ok .nothing))

/-- The callback of the first timer cancels the second and claims the third; the fourth one is not
due. -/
theorem timers_end_once_of_four :
    let script : Script (Op Float) (Reply Float) :=
      .before [.schedule "first" (.ok 1) (some meddling),
        .schedule "soon" (.ok 2) (some (.resting [0])),
        .schedule "later" (.ok 3) (some (.resting [0])),
        .schedule "last" (.ok 9) (some (.resting [0])), .advance (.ok 5)] (.done (.ok .nothing))
    let first := State.initial (0 : Float) script
    let state := machine.run 4 first
    let last := machine.run 10 first
    machine.Reaches first last ∧ last.trace.countP Moment.sets = 4 ∧
      last.store.agenda.pendingCount = 1 ∧ last.trace.countP Moment.cancels = 1 ∧
      last.trace.countP Moment.claims = 2 ∧ Listed 0 script last [3] ∧
      [3].countP last.store.agenda.isPending = 1 ∧
      (∃ next, Ends 0 state next ∧ ∀ later last, machine.Reaches next later → ¬ Ends 0 later last) ∧
      ∃ timer, last.store.agenda.get? 1 = some timer ∧ timer.active = false ∧
        ∀ later, machine.Reaches last later → later.store.agenda.get? 1 = some timer := by
  intro script first state last
  have reaches := Machine.reaches_run machine 10 first
  have all := timers_end_once 0 script last reaches
  have counts : last.trace.countP Moment.sets = 4 ∧ last.store.agenda.pendingCount = 1 ∧
      last.trace.countP Moment.cancels = 1 ∧ last.trace.countP Moment.claims = 2 := by
    decide +kernel
  have listed : Listed 0 script last [3] := by
    apply (listed_range reaches).purge
    · decide +kernel
    · decide +kernel
  refine ⟨reaches, counts.1, counts.2.1, counts.2.2.1, counts.2.2.2, listed, ?_, ?_, ?_⟩
  · rw [all.2.1 _ listed, counts.2.1]
  · have fires : (machine.step? state).any (fun next =>
        (next.trace.drop state.trace.length).any fun moment =>
          decide (Moment.firing? moment = some (0, 1))) = true := by decide +kernel
    obtain ⟨next, moment, records, found⟩ := Machine.exists_records fires
    rw [Moment.eq_of_firing? (of_decide_eq_true found)] at records
    have ends := (timers_end_once 0 script state (Machine.reaches_run machine 4 first)).2.2.1
    exact ⟨next, .fired records, (ends 0 next (.fired records)).2.2⟩
  · have found : (last.store.agenda.get? 1).any (fun timer => timer.active = false) = true := by
      decide +kernel
    obtain ⟨timer, stored, inactive⟩ := (Option.any_eq_true _ _).mp found
    have ended := of_decide_eq_true inactive
    exact ⟨timer, stored, ended, all.2.2.2 1 timer stored ended⟩

end TimerSession

end Debounce
