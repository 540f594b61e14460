import Debounce.Proofs.KeysInUse

/-!
# The first policy of a key

Seen from outside, a registry is a map. A key stands for the debouncer that the first operation
under it made, out of its own arguments, since the key was last taken out of use; the policies of
the operations that come later are not even looked at.
-/

namespace Debounce.RegistrySession

variable {τ : Type} [Instant τ]

/-! ## The history of a key -/

/-- A key is not in use if and only if no operation has come with a valid policy for it since it
was last taken out of use. -/
theorem find?_of_reaches {clock : τ} {script : Script (Op τ) (Reply τ)} {state : State τ}
    (reaches : machine.Reaches (State.initial clock script) state) {key : Value} :
    state.store.registry.find? key = none ↔
      ∀ op ∈ sinceDiscarded key state.trace, op.policyFor? key = none := by
  have all := reaches.keeps
    (fun store trace => store.Coherent ∧ (store.registry.find? key = none ↔
      ∀ op ∈ sinceDiscarded key trace, op.policyFor? key = none)) ?_ ?_
    ⟨Store.Coherent.new clock,
      by simp [State.initial, Store.new, Registry.find?, sinceDiscarded, begun]⟩
  · exact all.2
  · rintro op depth store trace ⟨coherent, tracked⟩
    refine ⟨(coherent.passage_start op).coherent coherent, ?_⟩
    rw [sinceDiscarded_began (begun_moments _ op depth)]
    have found : (machine.start op store).store.registry.find? key = none ↔ _ :=
      find?_start coherent.toShared op
    rw [found, tracked]
    cases taken : op.discards key with
    | true => simp [Op.policyFor?, policy?_of_discards taken]
    | false => simp [or_imp, forall_and]
  · rintro op frame reply depth store trace ⟨coherent, tracked⟩
    refine ⟨(coherent.passage_resume frame reply).coherent coherent, ?_⟩
    have same : (machine.resume frame reply store).store.registry.entries =
        store.registry.entries := entries_resume frame reply store
    rw [sinceDiscarded_of_begun (begun_moments _ op depth), ← tracked, Registry.find?,
      Registry.find?, same]

/-- A step of a run in which an operation makes a debouncer and registers it under a key that is
not in use, with the policy of its own arguments. -/
structure Creation (before after : State τ) (used : Value) (id : DebouncerId)
    (settings : Settings) : Prop where
  step : machine.step? before = some after
  policy : ∃ op next, before.script = .step op next ∧ op.policy? = some (used, settings)
  absent : before.store.registry.get? used = .ok none
  new : id = before.store.registry.made.length

/-- A debouncer was made in a run and its key has not been taken out of use since. -/
structure InUse (first state : State τ) (used : Value) (id : DebouncerId) (settings : Settings)
    (before : State τ) : Prop where
  reaches : machine.Reaches first before
  created : ∃ after recorded, Creation before after used id settings ∧
    machine.Reaches after state ∧ state.trace = after.trace ++ recorded ∧
    ∀ op ∈ begun recorded, op.discards used = false

section Origin

variable {first state last before after : State τ} {used : Value} {id : DebouncerId}
variable {settings : Settings}

/-- A step after which no operation has taken the key out of use. -/
theorem InUse.step (inUse : InUse first state used id settings before)
    (stepped : machine.step? state = some last) {recorded : History τ}
    (trace : last.trace = state.trace ++ recorded)
    (kept : ∀ op ∈ begun recorded, op.discards used = false) :
    InUse first last used id settings before := by
  rcases inUse with ⟨reaches, after, earlier, creation, since, record, others⟩
  refine ⟨reaches, after, earlier ++ recorded, creation, since.step stepped, ?_, ?_⟩
  · rw [trace, record, List.append_assoc]
  · intro op member
    rw [begun_append, List.mem_append] at member
    exact member.elim (others op) (kept op)

theorem Creation.of_addition? {op : Op τ} {next : Reply τ → Script (Op τ) (Reply τ)}
    (script : state.script = .step op next) (stepped : machine.step? state = some last)
    (new : addition? state.store op = some (used, id)) :
    ∃ settings, Creation state last used id settings := by
  rw [addition?] at new
  split at new
  · cases new
  · next key settings policy =>
      split at new
      · next absent =>
          cases new
          exact ⟨settings, stepped, ⟨op, next, script, policy⟩, absent, rfl⟩
      · cases new

/-- Every entry was made in the run, and its key has not been taken out of use since. -/
theorem inUse_of_mem {clock : τ} {script : Script (Op τ) (Reply τ)}
    (reaches : machine.Reaches (State.initial clock script) state)
    (member : (used, id) ∈ state.store.registry.entries) :
    ∃ settings before, InUse (State.initial clock script) state used id settings before := by
  induction reaches with
  | refl => cases member
  | @step middle last reaches stepped ih =>
      have coherent := coherent_of_reaches reaches
      cases Machine.step_of_step? stepped with
      | @start op next script =>
          rw [Machine.settle_store] at member
          have entries := entries_start coherent.toShared op
          rw [show machine.start op middle.store = start op middle.store from rfl, entries,
            List.mem_append] at member
          rcases member with stays | new
          · rw [List.mem_filter] at stays
            rcases ih stays.1 with ⟨settings, before, inUse⟩
            have trace := (Machine.start_of_step? script stepped).2
            refine ⟨settings, before, inUse.step stepped trace ?_⟩
            intro other begins
            rw [begun_began (begun_moments _ op _), List.mem_singleton] at begins
            simpa [begins] using stays.2
          · rcases Creation.of_addition? script stepped (Option.mem_toList.mp new) with
              ⟨settings, creation⟩
            exact ⟨settings, middle, reaches, _, [], creation, .refl, by simp, by simp [begun]⟩
      | ask _ =>
          rcases ih member with ⟨settings, before, inUse⟩
          exact ⟨settings, before, inUse.step stepped (List.append_nil _).symm (by simp [begun])⟩
      | @resume reply op frame next rest _ _ =>
          have same := entries_resume frame reply middle.store
          rw [Machine.settle_store, show machine.resume frame reply middle.store =
            resume frame reply middle.store from rfl, same] at member
          rcases ih member with ⟨settings, before, inUse⟩
          refine ⟨settings, before, inUse.step stepped (Machine.settle_trace _ _ _ _) ?_⟩
          simp [begun_moments]

/-- The debouncer has the given policy, and the name of the key. -/
def Store.Made (store : Store τ) (used : Value) (id : DebouncerId) (settings : Settings) : Prop :=
  ∃ debouncer, store.registry.debouncer? id = some debouncer ∧ debouncer.settings = settings ∧
    debouncer.name = .text used.displayText

omit [Instant τ] in
theorem KeepsPolicies.made {store later : Store τ} (keeps : KeepsPolicies store later)
    (made : store.Made used id settings) : later.Made used id settings := by
  rcases made with ⟨debouncer, found, policy, name⟩
  rcases keeps id debouncer found with ⟨kept, foundLater, same⟩
  exact ⟨kept, foundLater, same.settings.trans policy, same.name.trans name⟩

/-- An operation that makes a debouncer gives it the policy of its arguments. -/
theorem made_by_start {store : Store τ} {op : Op τ} (policy : op.policy? = some (used, settings))
    (absent : store.registry.get? used = .ok none) :
    (start op store).store.Made used store.registry.made.length settings := by
  cases op with
  | guarded guard key work? =>
      rcases policy?_eq_some policy with ⟨chosen, built⟩
      have obtained := Registry.obtained_getOrCreate store.registry used guard.interval
        guard.leading guard.idleTime store.agenda.now
      simp only [start, chosen, Except.bind]
      generalize store.registry.getOrCreate used guard.interval guard.leading guard.idleTime
        store.agenda.now = outcome at obtained
      cases obtained with
      | refused looked => cases absent.symm.trans looked
      | invalid _ failed => cases built.symm.trans failed
      | found looked => cases absent.symm.trans looked
      | created _ same =>
          cases built.symm.trans same
          let plain : Member τ := { settings := settings, name := .text used.displayText }
          have fresh : SamePolicy plain (.new settings plain.name store.agenda.now) :=
            .rewound plain store.agenda.now
          have served := fresh.trans (.served (Debouncer.served_serve _ store.agenda
            store.registry.made.length (.call work?)))
          have known : store.registry.made.length <
              (store.made used settings).registry.made.length := by
            simp [Store.made, Registry.insert]
          simp only [serve, Registry.debouncer?_insert, if_true, take_store]
          exact ⟨_, (Registry.debouncer?_set _ known _ _).trans (if_pos rfl), served.settings,
            served.name⟩
  | reset | flush | discard | clear | contains | workKey | get | call | advance | now =>
      cases policy

/-- What has been made stays registered until its key is taken out of use. -/
structure Standing (used : Value) (id : DebouncerId) (settings : Settings) (since : History τ)
    (store : Store τ) (trace : History τ) : Prop where
  coherent : store.Coherent
  made : store.Made used id settings
  entered : ∃ recorded, trace = since ++ recorded ∧
    ((∀ op ∈ begun recorded, op.discards used = false) → (used, id) ∈ store.registry.entries)

theorem Standing.start {since trace : History τ} {store : Store τ} (op : Op τ) (depth : Nat)
    (standing : Standing used id settings since store trace) :
    Standing used id settings since (start op store).store
      (trace ++ .began op depth :: (start op store).moments op depth) := by
  rcases standing with ⟨coherent, made, recorded, rfl, entered⟩
  have passage := coherent.passage_start op
  refine ⟨passage.coherent coherent, passage.keepsPolicies.made made,
    recorded ++ .began op depth :: (RegistrySession.start op store).moments op depth, by simp, ?_⟩
  intro kept
  rw [begun_append, begun_began (begun_moments _ op depth)] at kept
  rw [entries_start coherent.toShared, List.mem_append, List.mem_filter]
  exact .inl ⟨entered fun other member => kept other (List.mem_append_left _ member),
    by simp [kept op (by simp)]⟩

theorem Standing.resume {since trace : History τ} {store : Store τ} (op : Op τ) (frame : Frame τ)
    (reply : Reply τ) (depth : Nat) (standing : Standing used id settings since store trace) :
    Standing used id settings since (resume frame reply store).store
      (trace ++ (resume frame reply store).moments op depth) := by
  rcases standing with ⟨coherent, made, recorded, rfl, entered⟩
  have passage := coherent.passage_resume frame reply
  refine ⟨passage.coherent coherent, passage.keepsPolicies.made made,
    recorded ++ (RegistrySession.resume frame reply store).moments op depth, by simp, ?_⟩
  intro kept
  rw [begun_append, begun_moments, List.append_nil] at kept
  rw [entries_resume]
  exact entered kept

/-- What is in use is registered under its key, with its policy and its name. -/
theorem mem_of_inUse {clock : τ} {script : Script (Op τ) (Reply τ)}
    (inUse : InUse (State.initial clock script) state used id settings before) :
    (used, id) ∈ state.store.registry.entries ∧ state.store.Made used id settings := by
  rcases inUse with ⟨reaches, after, recorded, creation, since, record, others⟩
  rcases creation with ⟨stepped, ⟨op, next, script, policy⟩, absent, rfl⟩
  have coherent := coherent_of_reaches reaches
  have began : after.store = (start op before.store).store :=
    (Machine.start_of_step? script stepped).1
  have entered : (used, before.store.registry.made.length) ∈ after.store.registry.entries := by
    rw [began, entries_start coherent.toShared]
    simp [addition?, policy, absent]
  have standing : Standing used before.store.registry.made.length settings after.trace state.store
      state.trace :=
    since.keeps (Standing used before.store.registry.made.length settings after.trace)
      (fun op depth _ _ => .start op depth)
      (fun op frame reply depth _ _ => .resume op frame reply depth)
      ⟨coherent_of_reaches (reaches.step stepped), began ▸ made_by_start policy absent, [], by simp,
        fun _ => entered⟩
  rcases standing with ⟨_, made, same, record', stays⟩
  refine ⟨stays ?_, made⟩
  rwa [List.append_cancel_left (record'.symm.trans record)]

end Origin

/-- An operation on a key that is in use acts as a call, whatever the policy it comes with. -/
theorem guarded_acts_as_call {store : Store τ} {key given chosen : Value} {id : DebouncerId}
    {work? : Option (Work (Op τ) (Reply τ))} (guard : Guard)
    (found : store.registry.get? key = .ok (some id))
    (chooses : Registry.chooseKey given work? = .ok chosen)
    (same : Key.same chosen key = true) :
    start (.guarded guard given work?) store = start (.call key work?) store := by
  have looked : store.registry.get? chosen = .ok (some id) :=
    Registry.get?_of_same same (Registry.get?_eq_ok found).2
  have obtained := Registry.obtained_getOrCreate store.registry chosen guard.interval
    guard.leading guard.idleTime store.agenda.now
  simp only [start, serveKey, chooses, found, Except.bind]
  generalize store.registry.getOrCreate chosen guard.interval guard.leading guard.idleTime
    store.agenda.now = outcome at obtained
  cases obtained with
  | refused refused => cases looked.symm.trans refused
  | invalid absent _ => cases looked.symm.trans absent
  | found again =>
      cases looked.symm.trans again
      rfl
  | created absent _ => cases looked.symm.trans absent

/-- The registry is a map from keys to first policies. In every state of a run, also inside works:
* a key that is the same as itself has no debouncer if and only if no operation has come with a
  valid policy for it since it was last taken out of use;
* otherwise it has the debouncer that was made by the first such operation, with the policy of its
  arguments and the name of its key, and any other operation on the key, whatever the policy it
  comes with, acts as a call of that debouncer;
* the size of the registry is the number of the keys in use. -/
theorem registry_maps_to_first_policies (clock : τ) (script : Script (Op τ) (Reply τ))
    (state : State τ) (reaches : machine.Reaches (State.initial clock script) state) :
    (∀ key, Key.same key key = true →
      (state.store.registry.get? key = .ok none ↔
        ∀ op ∈ sinceDiscarded key state.trace, op.policyFor? key = none) ∧
      (state.store.registry.get? key ≠ .ok none →
        ∃ id used settings before, state.store.registry.get? key = .ok (some id) ∧
          Key.same used key = true ∧
          InUse (State.initial clock script) state used id settings before ∧
          (∀ op ∈ sinceDiscarded key before.trace, op.policyFor? key = none) ∧
          state.store.Made used id settings ∧
          ∀ guard given work? chosen, Registry.chooseKey given work? = .ok chosen →
            Key.same chosen key = true →
            start (.guarded guard given work?) state.store =
              start (.call key work?) state.store)) ∧
      ∃ live : List (Value × DebouncerId), live.Nodup ∧
        live.Pairwise (fun entry other => Key.same entry.1 other.1 = false) ∧
        (∀ used id, (used, id) ∈ live ↔
          ∃ settings before, InUse (State.initial clock script) state used id settings before) ∧
        state.store.registry.size = live.length := by
  have coherent := coherent_of_reaches reaches
  refine ⟨?_, state.store.registry.entries, ?_, coherent.sound.apart, ?_, rfl⟩
  · intro key proper
    have looked : state.store.registry.get? key = .ok (state.store.registry.find? key) :=
      Registry.get?_of_check (Key.check_of_same proper)
    refine ⟨?_, ?_⟩
    · rw [looked, Except.ok.injEq]
      exact find?_of_reaches reaches
    · intro present
      obtain ⟨id, found⟩ : ∃ id, state.store.registry.find? key = some id :=
        Option.ne_none_iff_exists'.mp fun absent => present (absent ▸ looked)
      rcases Registry.find?_eq_some found with ⟨used, member, same⟩
      rcases inUse_of_mem reaches member with ⟨settings, before, inUse⟩
      refine ⟨id, used, settings, before, found ▸ looked, same, inUse, ?_, (mem_of_inUse inUse).2,
        fun guard given work? chosen chooses sameKey =>
          guarded_acts_as_call guard (found ▸ looked) chooses sameKey⟩
      rcases inUse with ⟨reachesBefore, after, recorded, creation, _⟩
      rw [← find?_of_reaches reachesBefore, ← Registry.find?_congr same]
      exact (Registry.get?_eq_ok creation.absent).2
  · exact coherent.sound.once.of_map _
  · intro used id
    constructor
    · exact inUse_of_mem reaches
    · rintro ⟨settings, before, inUse⟩
      exact (mem_of_inUse inUse).1

/-- The number one is registered with a policy of five seconds; an invalid policy for the same key,
given as `true`, changes nothing; the number two is registered and discarded. -/
theorem registry_maps_to_first_policies_of_two :
    let first := State.initial (0 : Rat)
      (.before [.guarded (.throttleFor (.duration (.ofSeconds 5))) (.int 1) (some (.resting [0])),
        .guarded (.throttleFor (.list [])) (.bool true) (some (.resting [0])),
        .guarded (.throttleFor (.duration (.ofSeconds 3))) (.int 2) (some (.resting [0])),
        .discard (.int 2)] (.done (.ok .nothing)))
    let state := machine.run 4 first
    machine.Reaches first state ∧
      (∃ used settings before, Key.same used (.bool true) = true ∧
        InUse first state used 0 settings before ∧ state.store.Made used 0 settings) ∧
      (∀ op ∈ sinceDiscarded (.int 2) state.trace, op.policyFor? (.int 2) = none) ∧
      state.store.registry.size = 1 := by
  intro first state
  have reaches := Machine.reaches_run machine 4 first
  have all := (registry_maps_to_first_policies _ _ state reaches).1
  have one : state.store.registry.get? (.bool true) = .ok (some 0) := by
    have found : state.store.registry.find? (.bool true) = some 0 := by decide +kernel
    rw [Registry.get?_of_check rfl, found]
  have two : state.store.registry.get? (.int 2) = .ok none := by
    have found : state.store.registry.find? (.int 2) = none := by decide +kernel
    rw [Registry.get?_of_check rfl, found]
  refine ⟨reaches, ?_, (all (.int 2) (by decide)).1.mp two, by decide +kernel⟩
  obtain ⟨id, used, settings, before, found, same, inUse, _, made, _⟩ :=
    (all (.bool true) (by decide)).2 (by simp [one])
  cases one.symm.trans found
  exact ⟨used, settings, before, same, inUse, made⟩

end Debounce.RegistrySession
