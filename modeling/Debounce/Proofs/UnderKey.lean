import Debounce.Proofs.Completion
import Debounce.Proofs.FirstPolicy
import Debounce.Proofs.Ranges
import Mathlib.Data.List.Induction

/-!
# The debouncer under a key

A section of an operation either tends to the debouncer that a key stands for, or it leaves this
debouncer alone: it serves a request of it, fires its timer or records its call, or it is about
other debouncers and the clock. Calls under a key come with a key of their own, which is the same
as this one. They make the debouncer if there is none.
-/

namespace Debounce

/-- What a request supplies, if it is a call. -/
def Request.call? {ω : Type} : Request ω → Option (Option ω)
  | .call work? => some work?
  | .callNow | .reset | .flush => none

theorem Request.supplied?_eq {ω : Type} (request : Request ω) :
    request.supplied? = request.call?.join := by
  cases request <;> rfl

namespace RegistrySession

variable {τ : Type}

/-! ## Calls under a key -/

/-- The key that a call uses, and the work that it supplies. -/
def Op.call? : Op τ → Option (Value × Option (Work (Op τ) (Reply τ)))
  | .guarded _ given work? => match Registry.chooseKey given work? with
      | .ok used => some (used, work?)
      | .error _ => none
  | .call used work? => some (used, work?)
  | _ => none

/-- What an operation supplies, if it is a call under the key or one that is the same. -/
def Op.callOn? (key : Value) (op : Op τ) : Option (Option (Work (Op τ) (Reply τ))) :=
  (op.call?.filter fun (used, _) => Key.same used key).map Prod.snd

section Calls

variable {key used : Value} {op : Op τ} {work? : Option (Work (Op τ) (Reply τ))}

theorem callOn?_of_same (calls : op.call? = some (used, work?)) (same : Key.same used key = true) :
    op.callOn? key = some work? := by
  simp [Op.callOn?, calls, Option.filter, same]

theorem callOn?_of_apart (calls : op.call? = some (used, work?))
    (apart : Key.same used key = false) : op.callOn? key = none := by
  simp [Op.callOn?, calls, Option.filter, apart]

theorem callOn?_eq_some (calls : op.callOn? key = some work?) :
    ∃ used, op.call? = some (used, work?) ∧ Key.same used key = true := by
  rcases Option.map_eq_some_iff.mp calls with ⟨⟨used, _⟩, kept, rfl⟩
  exact ⟨used, Option.filter_eq_some_iff.mp kept⟩

theorem callOn?_of_none (other : op.call? = none) : op.callOn? key = none := by
  simp [Op.callOn?, other]

end Calls

/-! ## The latest work -/

/-- The work that was supplied last under a key, since the key was last taken out of use. -/
def latest? (key : Value) (history : History τ) : Option (Work (Op τ) (Reply τ)) :=
  (sinceDiscarded key history).foldl (fun held op => (op.callOn? key).join.or held) none

section Latest

variable {key : Value} {op : Op τ} {history later : History τ}

theorem latest?_began {depth : Nat} (none : begun later = []) (kept : op.discards key = false) :
    latest? key (history ++ .began op depth :: later) =
      (op.callOn? key).join.or (latest? key history) := by
  rw [latest?, sinceDiscarded_began none, kept]
  simp [latest?]

theorem latest?_of_begun (none : begun later = []) :
    latest? key (history ++ later) = latest? key history := by
  rw [latest?, sinceDiscarded_of_begun none, latest?]

theorem latest?_eq_none (uncalled : ∀ op ∈ sinceDiscarded key history, op.callOn? key = none) :
    latest? key history = none := by
  rw [latest?]
  generalize sinceDiscarded key history = ops at uncalled
  induction ops using List.reverseRecOn with
  | nil => rfl
  | append_singleton ops op ih =>
      rw [List.foldl_append, ih fun op member => uncalled op (List.mem_append_left _ member)]
      simp [uncalled op (by simp)]

theorem mem_begun_of_sinceDiscarded (member : op ∈ sinceDiscarded key history) :
    op ∈ begun history := by
  have taken := List.mem_reverse.mp member
  exact List.mem_reverse.mp ((List.takeWhile_sublist _).subset taken)

end Latest

/-! ## What sections do with a debouncer -/

variable [Instant τ]

/-- The debouncer under a key that an operation comes to: the one that is there, or a new one that
the operation makes. -/
inductive Stands (store : Store τ) (key : Value) (op : Op τ) : DebouncerId → Member τ → Prop where
  | found {id : DebouncerId} {debouncer : Member τ} :
      store.registry.find? key = some id → store.registry.debouncer? id = some debouncer →
      Stands store key op id debouncer
  | made {used : Value} {settings : Settings} :
      store.registry.find? key = none → op.policyFor? key = some (used, settings) →
      Stands store key op store.registry.made.length
        (.new settings (.text used.displayText) store.agenda.now)

/-- What a section of an operation makes of a debouncer. It may be a call, which supplies work or
does not. -/
inductive Tends (store : Store τ) (id : DebouncerId) (debouncer : Member τ)
    (called? : Option (Option (Work (Op τ) (Reply τ)))) : Outcome τ → Member τ → Prop where
  /-- It serves a request. -/
  | served {origin : Store τ} {request : Request (Work (Op τ) (Reply τ))}
      {events : List (Event τ)} :
      request.call? = called? → request ≠ .callNow →
      (∀ event ∈ events, ¬ event.IsExecution ∧ ¬ event.IsOpening) →
      Tends store id debouncer called?
        (take origin id (debouncer.serve store.agenda id request) (Frame.serving id) events)
        (debouncer.serve store.agenda id request).debouncer
  /-- Its timer fires. -/
  | fired {deadline : τ} {count : Nat} {place : TimerId} {timer : Timer τ DebouncerId}
      {agenda : Agenda τ DebouncerId} :
      called? = none → store.agenda.fireNext? deadline = some (place, timer, agenda) →
      debouncer.timer = some place →
      Tends store id debouncer called?
        (take store id (debouncer.fire agenda place) (fun _ => .advancing deadline count)
          [.timerFired place timer.executionTime])
        (debouncer.fire agenda place).debouncer
  /-- A call that has run its work is recorded. -/
  | recorded {call : τ} {reply : Reply τ} :
      called? = none →
      Tends store id debouncer called?
        (answer (store.put id { debouncer with lastCall := some call } store.agenda) reply)
        { debouncer with lastCall := some call }
  /-- It is left alone, and the clock does not pass its timer. -/
  | spared {outcome : Outcome τ} :
      called? = none → (∀ notice ∈ outcome.events, notice.debouncer ≠ id) →
      (∀ place time stamp,
        Debouncer.Awaits debouncer outcome.store.agenda place time stamp →
        Debouncer.Awaits debouncer store.agenda place time stamp ∧
          (store.agenda.now ≤ time → outcome.store.agenda.now ≤ time)) →
      Tends store id debouncer called? outcome debouncer

/-- A section tends to a debouncer, which it leaves behind. -/
def TendsTo (store : Store τ) (id : DebouncerId) (debouncer : Member τ)
    (called? : Option (Option (Work (Op τ) (Reply τ)))) (outcome : Outcome τ) : Prop :=
  ∃ later, outcome.store.registry.debouncer? id = some later ∧
    Tends store id debouncer called? outcome later

section Sections

variable {store : Store τ} {id other : DebouncerId} {debouncer : Member τ} {key : Value}
variable {called? : Option (Option (Work (Op τ) (Reply τ)))}
variable {place : TimerId} {time stamp : τ}

/-- A timer that a debouncer awaits was awaited before if no timers of the debouncer are new. -/
theorem awaits_of_pending {before after : Agenda τ DebouncerId}
    (holds : after.HeldBy id debouncer.timer)
    (others : ∀ place timer, timer.callback = id → after.pending? place = some timer →
      before.pending? place = some timer)
    (awaits : Debouncer.Awaits debouncer after place time stamp) :
    Debouncer.Awaits debouncer before place time stamp := by
  rcases (holds place).mp awaits.timer with ⟨timer, pending, own⟩
  rcases Agenda.status?_eq_some.mp awaits.status with ⟨same, stored, active, rfl⟩
  rcases Agenda.pending?_eq_some.mp pending with ⟨storedHere, _⟩
  cases stored.symm.trans storedHere
  rcases Agenda.pending?_eq_some.mp (others place timer own pending) with ⟨storedBefore, _⟩
  exact ⟨awaits.timer, Agenda.status?_eq_some.mpr ⟨timer, storedBefore, active, rfl⟩,
    awaits.stamped⟩

theorem tendsTo_answer (found : store.registry.debouncer? id = some debouncer) (reply : Reply τ) :
    TendsTo store id debouncer none (answer store reply) :=
  ⟨debouncer, found,
    .spared rfl (by simp [answer]) fun _ _ _ awaits => ⟨awaits, fun ahead => ahead⟩⟩

/-- Another debouncer has its turn. -/
theorem tendsTo_take_other {origin : Store τ} {frame : Tail τ → Frame τ} {events : List (Event τ)}
    {turn : Turn τ (Agenda τ DebouncerId) (Work (Op τ) (Reply τ))}
    (found : origin.registry.debouncer? id = some debouncer)
    (known : other < origin.registry.made.length) (apart : id ≠ other)
    (minds : debouncer.Minds id store.agenda)
    (differs : store.agenda.DiffersAt other turn.scheduler) :
    TendsTo store id debouncer none (take origin other turn frame events) := by
  refine ⟨debouncer, ?_, .spared rfl ?_ ?_⟩
  · simp only [take_store, Store.put, Registry.debouncer?_set _ known, if_neg apart, found]
  · intro notice told
    rw [debouncer_of_mem_take _ _ _ _ _ told]
    exact apart.symm
  · simp only [take_store, Store.put]
    intro place time stamp awaits
    refine ⟨awaits_of_pending (minds.of_differsAt differs apart).holds ?_ awaits, ?_⟩
    · rintro place timer rfl
      exact (differs.others place timer apart).mp
    · rw [differs.now]
      exact fun ahead => ahead

/-- Resets of others. -/
theorem tendsTo_resets {origin after : Store τ} {ids : List DebouncerId}
    {notices : List (Notice τ)} (resets : Resets ids origin after notices)
    (agenda : origin.agenda = store.agenda) (apart : id ∉ ids)
    (found : origin.registry.debouncer? id = some debouncer) (reply : Reply τ) :
    TendsTo store id debouncer none (answer after reply notices) := by
  have kept : after.registry.debouncer? id = some debouncer := by rw [resets.others id apart, found]
  refine ⟨debouncer, kept, .spared rfl ?_ ?_⟩
  · rintro notice told rfl
    exact apart (resets.notices notice told)
  · intro place time stamp awaits
    refine ⟨awaits_of_pending (resets.shared.minds id debouncer kept).holds ?_ awaits, ?_⟩
    · rintro place timer rfl pending
      exact agenda ▸ (resets.timers place timer apart).mp pending
    · rw [answer, resets.now, agenda]
      exact fun ahead => ahead

/-- A debouncer that is registered serves a request. -/
theorem tendsTo_serve {request : Request (Work (Op τ) (Reply τ))} (coherent : store.Coherent)
    (found : store.registry.debouncer? id = some debouncer) (member : other ∈ store.registry.ids)
    (deliberate : request ≠ .callNow) (own : other = id → request.call? = called?)
    (foreign : other ≠ id → called? = none) :
    TendsTo store id debouncer called? (serve store other request []) := by
  rcases coherent.sound.debouncer? member with ⟨served, made⟩
  have known := coherent.sound.known other member
  simp only [serve, made]
  by_cases same : other = id
  · subst same
    cases found.symm.trans made
    refine ⟨_, ?_, .served (own rfl) deliberate (by simp)⟩
    simp [Store.put, Registry.debouncer?_set _ known]
  · rw [foreign same]
    have minds := coherent.minds other served made
    exact tendsTo_take_other found known (Ne.symm same) (coherent.minds id debouncer found)
      (minds.served (Debouncer.served_serve served store.agenda other request)).2

/-- The debouncer that is found under a key serves a request. -/
theorem tendsTo_serve_found {request : Request (Work (Op τ) (Reply τ))} {used : Value}
    (coherent : store.Coherent) (holder : store.registry.find? key = some id)
    (found : store.registry.debouncer? id = some debouncer)
    (looked : store.registry.get? used = .ok (some other)) (deliberate : request ≠ .callNow)
    (own : Key.same used key = true → request.call? = called?)
    (foreign : Key.same used key = false → called? = none) :
    TendsTo store id debouncer called? (serve store other request []) := by
  have usedBy := (Registry.get?_eq_ok looked).2
  refine tendsTo_serve coherent found (Registry.mem_ids_of_find? usedBy) deliberate ?_ ?_
  · rintro rfl
    apply own
    by_contra apart
    exact coherent.sound.find?_ne_of_apart usedBy (by simpa using apart) holder
  · intro unlike
    apply foreign
    by_contra same
    have found := Registry.get?_of_same (by simpa using same) holder
    exact unlike (by simpa using looked.symm.trans found)

theorem tendsTo_serveKey {request : Request (Work (Op τ) (Reply τ))} {used : Value}
    {otherwise : Answer τ} (coherent : store.Coherent) (holder : store.registry.find? key = some id)
    (found : store.registry.debouncer? id = some debouncer) (deliberate : request ≠ .callNow)
    (own : Key.same used key = true → request.call? = called?)
    (foreign : Key.same used key = false → called? = none) :
    TendsTo store id debouncer called? (serveKey store used request otherwise) := by
  have idle (unlike : store.registry.get? used ≠ .ok (some id)) : called? = none :=
    foreign (by simpa using fun same => unlike (Registry.get?_of_same same holder))
  rw [serveKey]
  split
  · next fault refused =>
      rw [idle (by simp [refused])]
      exact tendsTo_answer found _
  · next absent =>
      rw [idle (by simp [absent])]
      exact tendsTo_answer found _
  · next other looked =>
      exact tendsTo_serve_found coherent holder found looked deliberate own foreign

/-- A debouncer that has just been made minds the agenda. -/
theorem minds_of_made {used : Value} (coherent : store.Coherent)
    (absent : store.registry.find? used = none) (settings : Settings) :
    (Debouncer.new settings (.text used.displayText) store.agenda.now : Member τ).Minds
      store.registry.made.length store.agenda :=
  (coherent.made absent settings).minds _ _ (store.debouncer?_made used settings)

/-- The debouncer under a key was there before, or the operation has made it. -/
theorem holder_of_start (coherent : store.Coherent) {op : Op τ}
    (holder : (start op store).store.registry.find? key = some id) :
    store.registry.find? key = some id ∨
      ∃ used, addition? store op = some (used, id) ∧ Key.same used key = true := by
  rcases Registry.find?_eq_some holder with ⟨used, member, same⟩
  rw [entries_start coherent.toShared, List.mem_append, Option.mem_toList] at member
  rcases member with before | new
  · exact .inl (coherent.sound.find?_of_mem (List.mem_of_mem_filter before) same)
  · exact .inr ⟨used, new, same⟩

theorem holder_of_plain (coherent : store.Coherent) {op : Op τ} (plain : op.policy? = none)
    (holder : (start op store).store.registry.find? key = some id) :
    store.registry.find? key = some id := by
  refine (holder_of_start coherent holder).resolve_right ?_
  rintro ⟨used, new, _⟩
  simp [addition?, plain] at new

theorem Stands.minds {op : Op τ} (stands : Stands store key op id debouncer)
    (coherent : store.Coherent) : debouncer.Minds id store.agenda := by
  cases stands with
  | found _ found => exact coherent.minds id debouncer found
  | @made used settings absent policy =>
      have same : Key.same used key = true := (Option.filter_eq_some_iff.mp policy).2
      exact minds_of_made coherent ((Registry.find?_congr same).trans absent) settings

theorem tendsTo_discard (coherent : store.Coherent) (used : Value)
    (found : store.registry.debouncer? id = some debouncer)
    (holder : (start (.discard used) store).store.registry.find? key = some id) :
    TendsTo store id debouncer none (start (.discard used) store) := by
  have member := Registry.mem_ids_of_find? holder
  simp only [start] at member ⊢
  have removal := Registry.removal_remove store.registry used
  generalize store.registry.remove used = removed at removal member ⊢
  cases removal with
  | refused _ | absent _ => exact tendsTo_answer found _
  | @taken other looked =>
      have shared : Store.Shared { store with registry := store.registry.without used } :=
        coherent.toShared.of_parts rfl rfl
      have resets := resets_resetAll shared [other]
      have apart : id ≠ other := by
        have kept := resets.ids_eq ▸ member
        exact ((coherent.sound.mem_ids_without (Registry.get?_eq_ok looked).2 id).mp kept).2
      have agenda : Store.agenda { store with registry := store.registry.without used } =
          store.agenda := rfl
      exact tendsTo_resets resets agenda (by simpa using apart) found _

/-- A call makes a debouncer under a key that is not in use. -/
theorem tendsTo_created {op : Op τ} {used : Value} {settings : Settings}
    {work? : Option (Work (Op τ) (Reply τ))} (coherent : store.Coherent)
    (calls : op.call? = some (used, work?)) (policy : op.policy? = some (used, settings))
    (absent : store.registry.find? used = none)
    (holder : (store.made used settings).registry.find? key = some id) :
    ∃ debouncer, Stands store key op id debouncer ∧
      TendsTo store id debouncer (op.callOn? key)
        (take (store.made used settings) store.registry.made.length
          ((Debouncer.new settings (.text used.displayText) store.agenda.now).serve store.agenda
            store.registry.made.length (.call work?))
          (Frame.serving store.registry.made.length) [.registered used.displayText]) := by
  have known : store.registry.made.length < (store.made used settings).registry.made.length := by
    simp [Store.made, Registry.insert]
  cases same : Key.same used key with
  | true =>
      have new : store.registry.find? key = none := Registry.find?_congr same ▸ absent
      rw [Store.find?_made new same settings] at holder
      obtain rfl := Option.some.inj holder
      have comes : op.policyFor? key = some (used, settings) := by
        simp [Op.policyFor?, policy, Option.filter, same]
      refine ⟨_, .made new comes, _, ?_,
        .served (callOn?_of_same calls same).symm (by simp) (by simp)⟩
      rw [take_store]
      exact (Registry.debouncer?_set _ known _ _).trans (if_pos rfl)
  | false =>
      rw [Store.made, Registry.find?_insert, same, if_neg Bool.false_ne_true,
        Option.or_none] at holder
      rcases coherent.sound.debouncer? (Registry.mem_ids_of_find? holder) with ⟨debouncer, found⟩
      refine ⟨debouncer, .found holder found, ?_⟩
      rw [callOn?_of_apart calls same]
      have apart : id ≠ store.registry.made.length :=
        Nat.ne_of_lt (Registry.known_of_debouncer? found)
      have minds := minds_of_made coherent absent settings
      have served := minds.served (Debouncer.served_serve _ store.agenda _ (.call work?))
      refine tendsTo_take_other ?_ known apart (coherent.minds id debouncer found) served.2
      rw [Store.made, Registry.debouncer?_insert, if_neg apart, found]

/-- A call with a policy of its own serves the debouncer under its key, or makes one. -/
theorem tendsTo_guarded (coherent : store.Coherent) (guard : Guard) (given : Value)
    (work? : Option (Work (Op τ) (Reply τ)))
    (holder : (start (.guarded guard given work?) store).store.registry.find? key = some id) :
    ∃ debouncer, Stands store key (.guarded guard given work?) id debouncer ∧
      TendsTo store id debouncer (Op.callOn? key (.guarded guard given work?))
        (start (.guarded guard given work?) store) := by
  have present (before : store.registry.find? key = some id) :=
    coherent.sound.debouncer? (Registry.mem_ids_of_find? before)
  rw [start] at holder ⊢
  cases chosen : Registry.chooseKey given work? with
  | error fault =>
      rw [chosen] at holder
      rcases present holder with ⟨debouncer, found⟩
      refine ⟨debouncer, .found holder found, ?_⟩
      rw [callOn?_of_none (by simp [Op.call?, chosen])]
      exact tendsTo_answer found _
  | ok used =>
      have calls : (Op.guarded guard given work?).call? = some (used, work?) := by
        simp [Op.call?, chosen]
      have obtained := Registry.obtained_getOrCreate store.registry used guard.interval
        guard.leading guard.idleTime store.agenda.now
      simp only [chosen, Except.bind] at holder ⊢
      generalize store.registry.getOrCreate used guard.interval guard.leading guard.idleTime
        store.agenda.now = outcome at obtained holder ⊢
      -- Where nothing is served, the key in use is another one.
      have idle (before : store.registry.find? key = some id)
          (unlike : store.registry.get? used ≠ .ok (some id)) :
          Op.callOn? key (.guarded guard given work?) = none := by
        apply callOn?_of_apart calls
        simpa using fun same => unlike (Registry.get?_of_same same before)
      cases obtained with
      | refused refused =>
          rcases present holder with ⟨debouncer, found⟩
          refine ⟨debouncer, .found holder found, ?_⟩
          rw [idle holder (by simp [refused])]
          exact tendsTo_answer found _
      | invalid absent _ =>
          rcases present holder with ⟨debouncer, found⟩
          refine ⟨debouncer, .found holder found, ?_⟩
          rw [idle holder (by simp [absent])]
          exact tendsTo_answer found _
      | @found other looked =>
          have before : store.registry.find? key = some id := by
            rw [← holder, Registry.find?, Registry.find?, entries_serve]
          rcases present before with ⟨debouncer, found⟩
          exact ⟨debouncer, .found before found, tendsTo_serve_found coherent before found looked
            (by simp) (fun same => (callOn?_of_same calls same).symm) (callOn?_of_apart calls)⟩
      | @created settings looked built =>
          have policy : (Op.guarded guard given work?).policy? = some (used, settings) := by
            simp [Op.policy?, chosen, built]
          simp only [serve, Registry.debouncer?_insert, if_true] at holder ⊢
          rw [take_store] at holder
          exact tendsTo_created coherent calls policy (Registry.get?_eq_ok looked).2 holder

section Advances

variable [Instant.Lawful τ]

theorem tendsTo_sweep (coherent : store.Coherent)
    (found : store.registry.debouncer? id = some debouncer) (deadline : τ) (count : Nat) :
    TendsTo store id debouncer none (sweep store deadline count) := by
  rw [sweep]
  split
  · next absent =>
      refine ⟨debouncer, found, .spared rfl (by simp [answer]) ?_⟩
      intro place time stamp awaits
      have before : Debouncer.Awaits debouncer store.agenda place time stamp :=
        ⟨awaits.timer, awaits.status, awaits.stamped⟩
      exact ⟨before, Agenda.arrive_le absent before.status⟩
  · next place timer agenda next =>
      rcases coherent.timer_of_fireNext? next with ⟨_, firing, made, held⟩
      simp only [made]
      by_cases own : timer.callback = id
      · subst own
        cases found.symm.trans made
        refine ⟨_, ?_, .fired rfl next held⟩
        simp [Store.put, Registry.debouncer?_set _ (Registry.known_of_debouncer? made)]
      · have kept : (store.put timer.callback (firing.fire agenda place).debouncer
            agenda).registry.debouncer? id = some debouncer := by
          rw [Store.put, Registry.debouncer?_set _ (Registry.known_of_debouncer? made),
            if_neg (Ne.symm own), found]
        refine ⟨debouncer, by rw [take_store]; exact kept, .spared rfl ?_ ?_⟩
        · intro notice told
          rw [debouncer_of_mem_take _ _ _ _ _ told]
          exact own
        · intro waiting time stamp awaits
          have minds := (coherent.fire next made held).minds id debouncer kept
          have before : Debouncer.Awaits debouncer store.agenda waiting time stamp := by
            refine awaits_of_pending minds.holds ?_ (by simpa [Store.put] using awaits)
            intro other same _ pending
            rcases Agenda.fireNext?_eq_some next with ⟨_, _, _, rfl⟩
            have claimed : (store.agenda.claim place).2.pending? other = some same := pending
            rw [Agenda.pending?_claim] at claimed
            exact (Option.ite_none_left_eq_some.mp claimed).2
          refine ⟨before, fun ahead => ?_⟩
          simpa [Store.put] using Agenda.fireNext?_now_le next before.status ahead

/-- What the end of an operation, or an advance that goes on, does with a debouncer. -/
theorem tendsTo_resume (coherent : store.Coherent)
    (found : store.registry.debouncer? id = some debouncer) (frame : Frame τ) (reply : Reply τ) :
    TendsTo store id debouncer none (resume frame reply store) := by
  cases frame with
  | advancing deadline count =>
      cases reply with
      | error fault => exact tendsTo_answer found _
      | ok value => exact tendsTo_sweep coherent found deadline count
  | serving other tail =>
      rw [resume]
      cases made : store.registry.debouncer? other with
      | none => exact tendsTo_answer found _
      | some ending =>
          have kept : store.registry.set other ending = store.registry :=
            Registry.set_debouncer? made
          cases tail with
          | passOn => simpa [Debouncer.finish, kept] using tendsTo_answer found _
          | flushed => cases reply <;> simpa [Debouncer.finish, kept] using tendsTo_answer found _
          | record call =>
              cases reply with
              | error fault => simpa [Debouncer.finish, kept] using tendsTo_answer found _
              | ok value =>
                  have known := Registry.known_of_debouncer? made
                  by_cases own : other = id
                  · subst own
                    cases found.symm.trans made
                    have set := Registry.debouncer?_set store.registry known
                    exact ⟨_, (set _ _).trans (if_pos rfl), .recorded rfl⟩
                  · refine ⟨debouncer, ?_, .spared rfl (by simp [answer]) ?_⟩
                    · simp [answer, Debouncer.finish, Registry.debouncer?_set _ known,
                        Ne.symm own, found]
                    · exact fun _ _ _ awaits => ⟨awaits, fun ahead => ahead⟩

/-- What an operation that begins does with the debouncer that a key then stands for. -/
theorem tendsTo_start (coherent : store.Coherent) (op : Op τ)
    (holder : (start op store).store.registry.find? key = some id) :
    ∃ debouncer, Stands store key op id debouncer ∧
      TendsTo store id debouncer (op.callOn? key) (start op store) := by
  have present (plain : op.policy? = none) :
      ∃ debouncer, store.registry.find? key = some id ∧
        store.registry.debouncer? id = some debouncer := by
    have before := holder_of_plain coherent plain holder
    rcases coherent.sound.debouncer? (Registry.mem_ids_of_find? before) with ⟨debouncer, found⟩
    exact ⟨debouncer, before, found⟩
  cases op with
  | guarded guard given work? => exact tendsTo_guarded coherent guard given work? holder
  | reset | flush =>
      rcases present rfl with ⟨debouncer, before, found⟩
      exact ⟨debouncer, .found before found,
        tendsTo_serveKey coherent before found nofun (fun _ => rfl) fun _ => rfl⟩
  | call used work? =>
      rcases present rfl with ⟨debouncer, before, found⟩
      have calls : Op.call? (.call used work?) = some (used, work?) := rfl
      exact ⟨debouncer, .found before found, tendsTo_serveKey coherent before found nofun
        (fun same => (callOn?_of_same calls same).symm) (callOn?_of_apart calls)⟩
  | discard used =>
      rcases present rfl with ⟨debouncer, before, found⟩
      exact ⟨debouncer, .found before found, tendsTo_discard coherent used found holder⟩
  | clear =>
      have shared : Store.Shared { store with registry := store.registry.emptied } :=
        coherent.toShared.of_parts rfl rfl
      have emptied := (resets_resetAll shared store.registry.ids).find?_eq key
      cases holder.symm.trans emptied
  | advance delay =>
      rcases present rfl with ⟨debouncer, before, found⟩
      refine ⟨debouncer, .found before found, ?_⟩
      cases delay with
      | error fault => exact tendsTo_answer found _
      | ok delay => exact tendsTo_sweep coherent found _ 0
  | contains | workKey | get | now =>
      rcases present rfl with ⟨debouncer, before, found⟩
      exact ⟨debouncer, .found before found, tendsTo_answer found _⟩

end Advances

end Sections

end RegistrySession

end Debounce
