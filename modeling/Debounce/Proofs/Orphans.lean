import Debounce.Proofs.Registered

/-!
# No orphan timers

Every pending timer is the timer of a debouncer that is registered, so the agenda counts as many
pending timers as there are registered debouncers that are pending. What was scheduled for a key
therefore never runs once the key is out of use.
-/

namespace Debounce

namespace Agenda

variable {τ κ : Type}

/-- The places of the pending timers. -/
def pendingIds (agenda : Agenda τ κ) : List TimerId :=
  (agenda.entries.filter fun entry => entry.2.active).map Prod.fst

theorem mem_pendingIds {agenda : Agenda τ κ} {id : TimerId} :
    id ∈ agenda.pendingIds ↔ ∃ timer, agenda.pending? id = some timer := by
  simp [pendingIds, mem_entries, pending?_eq_some]

theorem nodup_pendingIds (agenda : Agenda τ κ) : agenda.pendingIds.Nodup := by
  have all : agenda.entries.map Prod.fst = List.range' 0 agenda.timers.length := by
    rw [entries, List.map_map]
    exact List.zipIdx_map_snd 0 agenda.timers
  have kept : agenda.pendingIds.Sublist (agenda.entries.map Prod.fst) :=
    List.filter_sublist.map Prod.fst
  exact (all ▸ List.nodup_range').sublist kept

theorem length_pendingIds (agenda : Agenda τ κ) :
    agenda.pendingIds.length = agenda.pendingCount := by
  have timers : agenda.entries.map Prod.snd = agenda.timers := by
    rw [entries, List.map_map]
    exact List.zipIdx_map_fst 0 agenda.timers
  rw [pendingIds, List.length_map, ← List.countP_eq_length_filter, pendingCount, ← timers,
    List.countP_map]
  rfl

end Agenda

/-- How many registered debouncers are pending. -/
def Registry.pendingCount {τ ω : Type} [Instant τ] (registry : Registry τ ω)
    (agenda : Agenda τ DebouncerId) : Nat :=
  registry.entries.countP fun entry =>
    (registry.debouncer? entry.2).any fun debouncer => debouncer.pending agenda

/-- The timer that a debouncer holds. -/
def Registry.timer? {τ ω : Type} (registry : Registry τ ω) (id : DebouncerId) : Option TimerId :=
  (registry.debouncer? id).bind Debouncer.timer

namespace RegistrySession

variable {τ : Type}

namespace Store.Coherent

variable {store : Store τ}

/-- A debouncer holds a timer if and only if it is a pending one that is set for it. -/
theorem timer?_eq_some (coherent : store.Coherent) {id : DebouncerId} {place : TimerId} :
    store.registry.timer? id = some place ↔
      ∃ timer, store.agenda.pending? place = some timer ∧ timer.callback = id := by
  rw [Registry.timer?, Option.bind_eq_some_iff]
  constructor
  · rintro ⟨debouncer, found, held⟩
    exact ((coherent.minds id debouncer found).holds place).mp held
  · rintro ⟨timer, pending, rfl⟩
    have made : store.registry.debouncer? timer.callback = some _ :=
      List.getElem?_eq_getElem (coherent.owned place timer pending)
    exact ⟨_, made, ((coherent.minds _ _ made).holds place).mpr ⟨timer, pending, rfl⟩⟩

theorem mem_ids_of_timer? (coherent : store.Coherent) {id : DebouncerId} {place : TimerId}
    (held : store.registry.timer? id = some place) : id ∈ store.registry.ids := by
  rcases Option.bind_eq_some_iff.mp held with ⟨debouncer, found, held⟩
  exact coherent.registered id debouncer found (by simp [held])

/-- The pending timers are those of the registered debouncers, each held by one. -/
theorem pendingIds_perm (coherent : store.Coherent) :
    store.agenda.pendingIds.Perm (store.registry.ids.filterMap store.registry.timer?) := by
  have once : (store.registry.ids.filterMap store.registry.timer?).Nodup := by
    apply List.Nodup.filterMap _ coherent.sound.once
    intro id other place held heldOther
    rcases coherent.timer?_eq_some.mp held with ⟨timer, pending, rfl⟩
    rcases coherent.timer?_eq_some.mp heldOther with ⟨same, pendingSame, rfl⟩
    rw [pending] at pendingSame
    rw [Option.some.inj pendingSame]
  rw [List.perm_ext_iff_of_nodup store.agenda.nodup_pendingIds once]
  intro place
  rw [Agenda.mem_pendingIds, List.mem_filterMap]
  constructor
  · rintro ⟨timer, pending⟩
    have held := coherent.timer?_eq_some.mpr ⟨timer, pending, rfl⟩
    exact ⟨timer.callback, coherent.mem_ids_of_timer? held, held⟩
  · rintro ⟨id, _, held⟩
    rcases coherent.timer?_eq_some.mp held with ⟨timer, pending, _⟩
    exact ⟨timer, pending⟩

variable [Instant τ]

theorem pendingCount_eq (coherent : store.Coherent) :
    store.agenda.pendingCount = store.registry.pendingCount store.agenda := by
  have pending (entry : Value × DebouncerId) :
      ((store.registry.debouncer? entry.2).any fun debouncer => debouncer.pending store.agenda) =
        (store.registry.timer? entry.2).isSome := by
    cases found : store.registry.debouncer? entry.2 with
    | none => simp [Registry.timer?, found]
    | some debouncer =>
        simp [Registry.timer?, found, (coherent.minds _ _ found).pending_eq]
  rw [← store.agenda.length_pendingIds, coherent.pendingIds_perm.length_eq,
    List.length_filterMap_eq_countP, Registry.ids, List.countP_map, Registry.pendingCount]
  congr 1
  funext entry
  exact (pending entry).symm

end Store.Coherent

/-! ## Debouncers that are out of use -/

/-- The debouncer has been made and is out of use. -/
structure Store.Retired (id : DebouncerId) (store : Store τ) : Prop where
  made : id < store.registry.made.length
  unregistered : id ∉ store.registry.ids

/-- The operation takes the debouncer out of use. -/
def Op.Drops (registry : Registry τ (Work (Op τ) (Reply τ))) (id : DebouncerId) : Op τ → Prop
  | .discard key => registry.get? key = .ok (some id)
  | .clear => id ∈ registry.ids
  | _ => False

variable [Instant τ]

section Retired

variable {store : Store τ} {id : DebouncerId} {outcome : Outcome τ}

omit [Instant τ] in
theorem Store.Retired.put (retired : store.Retired id) (other : DebouncerId)
    (debouncer : Member τ) (agenda : Agenda τ DebouncerId) :
    (store.put other debouncer agenda).Retired id :=
  ⟨by simpa [Store.put] using retired.made, retired.unregistered⟩

omit [Instant τ] in
theorem Store.Retired.of_parts {after : Store τ} (retired : store.Retired id)
    (length : after.registry.made.length = store.registry.made.length)
    (ids : id ∈ after.registry.ids → id ∈ store.registry.ids) : after.Retired id :=
  ⟨length ▸ retired.made, fun member => retired.unregistered (ids member)⟩

/-- A debouncer that is out of use stays so and is not heard of. -/
theorem Passage.retired (passage : Passage store outcome) (coherent : store.Coherent)
    (retired : store.Retired id) :
    outcome.store.Retired id ∧ ∀ notice ∈ outcome.events, notice.debouncer ≠ id := by
  cases passage with
  | answered => exact ⟨retired, by simp [answer]⟩
  | served member _ =>
      refine ⟨by simpa using retired.put _ _ _, ?_⟩
      intro notice told
      rw [debouncer_of_mem_take _ _ _ _ _ told]
      exact fun same => retired.unregistered (same ▸ member)
  | @created key settings work? looked =>
      have made : (store.made key settings).Retired id := by
        have below := retired.made
        refine ⟨?_, ?_⟩
        · simp only [Store.made, Registry.insert, List.length_append, List.length_singleton]
          exact Nat.lt_succ_of_lt below
        · have new : id ≠ store.registry.made.length := Nat.ne_of_lt below
          simpa [Store.made, Registry.insert, Registry.ids, new] using retired.unregistered
      refine ⟨by simpa using made.put _ _ _, ?_⟩
      intro notice told
      rw [debouncer_of_mem_take _ _ _ _ _ told]
      exact (Nat.ne_of_lt retired.made).symm
  | discarded found resets =>
      have holder := (Registry.get?_eq_ok found).2
      refine ⟨retired.of_parts resets.length ?_, ?_⟩
      · intro member
        exact ((coherent.sound.mem_ids_without holder id).mp (resets.ids_eq ▸ member)).1
      · intro notice told same
        have dropped := List.mem_singleton.mp (resets.notices notice told)
        exact retired.unregistered (same ▸ dropped ▸ Registry.mem_ids_of_find? holder)
  | cleared resets =>
      refine ⟨retired.of_parts resets.length ?_, ?_⟩
      · intro member
        cases (resets.ids_eq ▸ member : id ∈ store.registry.emptied.ids)
      · intro notice told same
        exact retired.unregistered (same ▸ resets.notices notice told)
  | recorded found => exact ⟨retired.put _ _ _, by simp [answer]⟩
  | arrived _ => exact ⟨⟨retired.made, retired.unregistered⟩, by simp [answer]⟩
  | fired _ member _ _ =>
      refine ⟨by simpa using retired.put _ _ _, ?_⟩
      intro notice told
      rw [debouncer_of_mem_take _ _ _ _ _ told]
      exact fun same => retired.unregistered (same ▸ member)

end Retired

/-- A debouncer that is taken out of use is out of use after the operation. -/
theorem Op.Drops.retired {op : Op τ} {store : Store τ} {id : DebouncerId}
    (drops : op.Drops store.registry id) (coherent : store.Coherent) :
    (start op store).store.Retired id := by
  have shared (registry : Registry τ (Work (Op τ) (Reply τ)))
      (made : registry.made = store.registry.made) :
      Store.Shared { store with registry := registry } := coherent.toShared.of_parts rfl made
  cases op with
  | discard key =>
      have holder := (Registry.get?_eq_ok drops).2
      have resets := resets_resetAll (shared (store.registry.without key) rfl) [id]
      have unregistered : id ∉ (store.registry.without key).ids := by
        rw [coherent.sound.mem_ids_without holder]
        simp
      have removal := Registry.removal_remove store.registry key
      simp only [start]
      generalize store.registry.remove key = removed at removal
      cases removal with
      | refused refused => cases drops.symm.trans refused
      | absent absent => cases holder.symm.trans absent
      | taken found =>
          cases drops.symm.trans found
          exact ⟨resets.length ▸ coherent.sound.known id (Registry.mem_ids_of_find? holder),
            resets.ids_eq ▸ unregistered⟩
  | clear =>
      have resets := resets_resetAll (shared store.registry.emptied rfl) store.registry.ids
      exact ⟨resets.length ▸ coherent.sound.known id drops, resets.ids_eq ▸ List.not_mem_nil⟩
  | guarded | reset | flush | contains | workKey | get | call | advance | now => cases drops

/-- The debouncer is out of use, and nothing has been heard of it since the record was the given
one. -/
structure Silenced (id : DebouncerId) (since : History τ) (store : Store τ) (trace : History τ) :
    Prop where
  coherent : store.Coherent
  retired : store.Retired id
  unheard : ∃ recorded, trace = since ++ recorded ∧ ∀ event, .event ⟨id, event⟩ ∉ recorded

/-- The silence outlasts every section of an operation. -/
theorem Passage.silenced {store : Store τ} {outcome : Outcome τ} {id : DebouncerId}
    {since trace : History τ} {op : Op τ} {depth : Nat} (passage : Passage store outcome)
    (silenced : Silenced id since store trace) (begun : History τ)
    (begins : ∀ notice, .event notice ∉ begun) :
    Silenced id since outcome.store (trace ++ begun ++ outcome.moments op depth) := by
  rcases silenced with ⟨coherent, retired, recorded, rfl, unheard⟩
  rcases passage.retired coherent retired with ⟨still, others⟩
  refine ⟨passage.coherent coherent, still, recorded ++ begun ++ outcome.moments op depth,
    by simp, ?_⟩
  intro event told
  simp only [List.mem_append, Effect.event_mem_moments] at told
  rcases told with (before | atBegin) | now
  · exact unheard event before
  · exact begins _ atBegin
  · exact others _ now rfl

/-- No orphan timers: in every state of a run, also inside works, as many timers are pending as
there are registered debouncers that are pending. Once a debouncer is taken out of use by its key,
none of its timers is ever pending and nothing more is heard of it, so nothing that was scheduled
for it runs. -/
theorem no_orphan_timers (clock : τ) (script : Script (Op τ) (Reply τ)) (state : State τ)
    (reaches : machine.Reaches (State.initial clock script) state) :
    state.store.agenda.pendingCount = state.store.registry.pendingCount state.store.agenda ∧
      ∀ op next id after later, state.script = .step op next →
        op.Drops state.store.registry id → machine.step? state = some after →
        machine.Reaches after later →
          (∀ place timer, later.store.agenda.get? place = some timer → timer.callback = id →
            timer.active = false) ∧
          ∃ recorded, later.trace = after.trace ++ recorded ∧
            ∀ event, .event ⟨id, event⟩ ∉ recorded := by
  have coherent := coherent_of_reaches reaches
  refine ⟨coherent.pendingCount_eq, ?_⟩
  intro op next id after later script drops stepped reachesLater
  have begins := (Machine.start_of_step? script stepped).1
  have retired : after.store.Retired id := begins ▸ drops.retired coherent
  have silenced : Silenced id after.trace later.store later.trace := by
    refine reachesLater.keeps (Silenced id after.trace) ?_ ?_
      ⟨coherent_of_reaches (reaches.step stepped), retired, [], by simp⟩
    · intro op depth store trace silenced
      have passage := silenced.coherent.passage_start op
      simpa [machine] using passage.silenced silenced [.began op depth] (by simp)
    · intro op frame reply depth store trace silenced
      have passage := silenced.coherent.passage_resume frame reply
      simpa [machine] using passage.silenced silenced [] (by simp)
  refine ⟨?_, silenced.unheard⟩
  rintro place timer stored rfl
  by_contra active
  have pending : later.store.agenda.pending? place = some timer :=
    Agenda.pending?_eq_some.mpr ⟨stored, by simpa using active⟩
  have held := silenced.coherent.timer?_eq_some.mpr ⟨timer, pending, rfl⟩
  exact silenced.retired.unregistered (silenced.coherent.mem_ids_of_timer? held)

/-- A work that calls the debouncer that runs it once more, discards it, and then fails. -/
def discardingItself : Work (Op Rat) (Reply Rat) where
  id := [0]
  name := "discards"
  body _ := .before [.call (.int 1) none, .discard (.int 1)] (.done (.error (.raised .value [])))

/-- The number that a script begins with taking out of use. -/
def discarded? {τ : Type} : Script (Op τ) (Reply τ) → Option Int
  | .step (.discard (.int n)) _ => some n
  | _ => none

omit [Instant τ] in
theorem eq_of_discarded? {script : Script (Op τ) (Reply τ)} {n : Int}
    (asks : discarded? script = some n) :
    ∃ next, script = .step (.discard (.int n)) next := by
  rw [discarded?.eq_def] at asks
  split at asks
  · cases asks
    exact ⟨_, rfl⟩
  · cases asks

/-- A work that a timer runs is about to discard its own key: the timer that it has just set is
pending, its debouncer is registered and pending, and nothing will be heard of either. -/
theorem no_orphan_timers_inside_work :
    let first := State.initial (0 : Rat)
      (.before [.guarded (.throttleFor (.duration (.ofSeconds 5))) (.int 1) (some discardingItself),
        .advance (.ok 7), .advance (.ok 7)] (.done (.ok .nothing)))
    let state := machine.run 3 first
    machine.Reaches first state ∧ state.stack.length = 1 ∧ state.store.agenda.pendingCount = 1 ∧
      state.store.registry.pendingCount state.store.agenda = 1 ∧
      ∀ later, machine.Reaches (machine.run 1 state) later →
        ∃ recorded, later.trace = (machine.run 1 state).trace ++ recorded ∧
          ∀ event, .event ⟨0, event⟩ ∉ recorded := by
  intro first state
  have reaches := Machine.reaches_run machine 3 first
  have all := no_orphan_timers _ _ state reaches
  have pending : state.store.agenda.pendingCount = 1 := by decide +kernel
  have registered : state.store.registry.find? (.int 1) = some 0 := by decide +kernel
  have drops : Op.Drops state.store.registry 0 (.discard (.int 1)) := by
    rw [Op.Drops, Registry.get?_of_check rfl, registered]
  refine ⟨reaches, by decide +kernel, pending, pending ▸ all.1.symm, ?_⟩
  intro later reachesLater
  have asks : discarded? state.script = some 1 := by decide +kernel
  rcases eq_of_discarded? asks with ⟨next, script⟩
  have stepped : machine.step? state = some (machine.run 1 state) := by
    simp only [Machine.run, Machine.step?, script]
  exact (all.2 _ next 0 _ later script drops stepped reachesLater).2

end RegistrySession

end Debounce
