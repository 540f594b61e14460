import Debounce.Proofs.Registered

/-!
# Keys in use

The only operations that change which keys are in use are those that come with a policy and those
that take keys out of use. An operation leaves the entries of a registry that it does not take out
of use, and may add one. No operation changes the policy of a debouncer that has been made.
-/

namespace Debounce.RegistrySession

variable {τ : Type}

/-! ## What operations say about a key -/

/-- The key that an operation uses and the policy that it comes with, if it comes with a valid one.
-/
def Op.policy? : Op τ → Option (Value × Settings)
  | .guarded guard key work? =>
      match Registry.chooseKey key work?,
        Settings.build guard.interval guard.leading guard.idleTime with
      | .ok used, .ok settings => some (used, settings)
      | _, _ => none
  | _ => none

/-- The key and the policy of an operation on the key or on one that is the same. -/
def Op.policyFor? (key : Value) (op : Op τ) : Option (Value × Settings) :=
  op.policy?.filter fun (used, _) => Key.same used key

/-- The operation takes the key out of use. -/
def Op.discards (key : Value) : Op τ → Bool
  | .discard other => Key.same key other
  | .clear => true
  | _ => false

/-- The operations that have begun. -/
def begun (history : History τ) : List (Op τ) :=
  history.filterMap fun
    | .began op _ => some op
    | .event _ | .ended _ _ _ => none

/-- The operations that have begun since the key was last taken out of use. -/
def sinceDiscarded (key : Value) (history : History τ) : List (Op τ) :=
  ((begun history).reverse.takeWhile fun op => !op.discards key).reverse

section Begun

variable {key other : Value} {op : Op τ} {history : History τ}

theorem begun_append (history later : History τ) :
    begun (history ++ later) = begun history ++ begun later := List.filterMap_append

theorem begun_moments {Frame Store : Type} (effect : Effect (Op τ) (Reply τ) Store Frame (Notice τ))
    (op : Op τ) (depth : Nat) : begun (effect.moments op depth) = [] := by
  apply List.filterMap_eq_nil_iff.mpr
  intro moment member
  cases moment with
  | began => exact absurd member Effect.began_not_mem_moments
  | event | ended => rfl

theorem sinceDiscarded_of_begun {later : History τ} (none : begun later = []) :
    sinceDiscarded key (history ++ later) = sinceDiscarded key history := by
  simp [sinceDiscarded, begun_append, none]

theorem begun_began {later : History τ} {depth : Nat} (none : begun later = []) :
    begun (.began op depth :: later) = [op] := by
  simpa [begun] using none

/-- One more operation, which may take the key out of use. -/
theorem sinceDiscarded_began {later : History τ} {depth : Nat} (none : begun later = []) :
    sinceDiscarded key (history ++ .began op depth :: later) =
      if op.discards key then [] else sinceDiscarded key history ++ [op] := by
  rw [sinceDiscarded, begun_append, begun_began none, List.reverse_append, List.reverse_singleton,
    List.singleton_append, List.takeWhile_cons]
  cases op.discards key with
  | true => rfl
  | false => simp [sinceDiscarded]

theorem discards_congr (same : Key.same key other = true) :
    op.discards key = op.discards other := by
  cases op with
  | discard taken => exact Key.same_left same taken
  | clear => rfl
  | guarded | reset | flush | contains | workKey | get | call | advance | now => rfl

theorem policy?_eq_some {guard : Guard} {work? : Option (Work (Op τ) (Reply τ))} {used : Value}
    {settings : Settings}
    (policy : (Op.guarded guard key work?).policy? = some (used, settings)) :
    Registry.chooseKey key work? = .ok used ∧
      Settings.build guard.interval guard.leading guard.idleTime = .ok settings := by
  rw [Op.policy?] at policy
  split at policy
  · next chosen built =>
      cases policy
      exact ⟨chosen, built⟩
  · cases policy

theorem policy?_of_discards (taken : op.discards key = true) : op.policy? = none := by
  cases op with
  | guarded => cases taken
  | reset | flush | discard | clear | contains | workKey | get | call | advance | now => rfl

theorem policyFor?_eq_none :
    op.policyFor? key = none ↔
      ∀ used settings, op.policy? = some (used, settings) → Key.same used key = false := by
  simp [Op.policyFor?, Option.filter_eq_none_iff]

end Begun

variable [Instant τ]

/-! ## Policies -/

/-- The debouncer still has its policy and its name. -/
structure SamePolicy (old new : Member τ) : Prop where
  settings : new.settings = old.settings
  name : new.name = old.name

namespace SamePolicy

omit [Instant τ] in
theorem refl (debouncer : Member τ) : SamePolicy debouncer debouncer := ⟨rfl, rfl⟩

omit [Instant τ] in
theorem trans {old middle new : Member τ} (earlier : SamePolicy old middle)
    (later : SamePolicy middle new) : SamePolicy old new :=
  ⟨later.settings.trans earlier.settings, later.name.trans earlier.name⟩

theorem rewound (debouncer : Member τ) (now : τ) : SamePolicy debouncer (debouncer.rewound now) :=
  ⟨Debouncer.rewound_settings, by rw [Debouncer.rewound]; split <;> rfl⟩

omit [Instant τ] in
theorem fire (debouncer : Member τ) (agenda : Agenda τ DebouncerId) (place : TimerId) :
    SamePolicy debouncer (debouncer.fire agenda place).debouncer :=
  ⟨Debouncer.fire_settings place, by rw [Debouncer.fire, Debouncer.execute]; split <;> rfl⟩

theorem served {debouncer : Member τ} {agenda : Agenda τ DebouncerId} {id : DebouncerId}
    {request : Request (Work (Op τ) (Reply τ))} {turn : Turn τ (Agenda τ DebouncerId) _}
    (form : Debouncer.Served debouncer agenda id request turn) :
    SamePolicy debouncer turn.debouncer := by
  refine ⟨form.settings, ?_⟩
  cases form with
  | leading _ _ _ call => cases call <;> rfl
  | trailing _ _ _ call => cases call <;> rfl
  | reset => exact (rewound { debouncer with timer := none } _).name
  | refusedCall | passedOn | refusedNow | ranNow | nothingToFlush | flushed | tooLateToFlush => rfl

end SamePolicy

/-- Every debouncer of the earlier registry is in the later one and has the same policy. -/
def KeepsPolicies (before after : Store τ) : Prop :=
  ∀ id debouncer, before.registry.debouncer? id = some debouncer →
    ∃ later, after.registry.debouncer? id = some later ∧ SamePolicy debouncer later

namespace KeepsPolicies

variable {store before after : Store τ} {id : DebouncerId} {debouncer : Member τ}

omit [Instant τ] in
theorem of_made (made : after.registry.made = before.registry.made) :
    KeepsPolicies before after := by
  intro id debouncer found
  rw [Registry.debouncer?, ← made] at found
  exact ⟨debouncer, found, .refl debouncer⟩

omit [Instant τ] in
theorem put {new : Member τ} (found : store.registry.debouncer? id = some debouncer)
    (same : SamePolicy debouncer new) (agenda : Agenda τ DebouncerId) :
    KeepsPolicies store (store.put id new agenda) := by
  intro place other foundOther
  simp only [Store.put, Registry.debouncer?_set _ (Registry.known_of_debouncer? found)]
  by_cases here : place = id
  · rw [here, found] at foundOther
    rw [if_pos here]
    exact ⟨new, rfl, Option.some.inj foundOther ▸ same⟩
  · rw [if_neg here]
    exact ⟨other, foundOther, .refl other⟩

theorem resets {ids : List DebouncerId} {notices : List (Notice τ)}
    (resets : Resets ids before after notices) : KeepsPolicies before after := by
  intro id debouncer found
  by_cases member : id ∈ ids
  · refine ⟨renewed before.agenda.now debouncer, by rw [resets.reset id member, found]; rfl, ?_⟩
    have same := SamePolicy.rewound { debouncer with timer := none } before.agenda.now
    exact ⟨same.settings, same.name⟩
  · exact ⟨debouncer, by rw [resets.others id member, found], .refl debouncer⟩

end KeepsPolicies

/-- No section of an operation changes the policy or the name of a debouncer. -/
theorem Passage.keepsPolicies {store : Store τ} {outcome : Outcome τ}
    (passage : Passage store outcome) : KeepsPolicies store outcome.store := by
  cases passage with
  | answered => exact .of_made rfl
  | served _ found =>
      rw [take_store]
      exact .put found (.served (Debouncer.served_serve _ _ _ _)) _
  | @created key settings work? _ =>
      intro id debouncer found
      have other : id ≠ store.registry.made.length :=
        Nat.ne_of_lt (Registry.known_of_debouncer? found)
      have known : store.registry.made.length < (store.made key settings).registry.made.length := by
        simp [Store.made, Registry.insert]
      refine ⟨debouncer, ?_, .refl debouncer⟩
      simp only [take_store, Store.put, Registry.debouncer?_set _ known, if_neg other]
      simp only [Store.made, Registry.debouncer?_insert, if_neg other, found]
  | discarded _ resets =>
      intro id debouncer found
      exact KeepsPolicies.resets resets id debouncer found
  | cleared resets =>
      intro id debouncer found
      exact KeepsPolicies.resets resets id debouncer found
  | @recorded id debouncer call _ found =>
      have same : SamePolicy debouncer { debouncer with lastCall := some call } := ⟨rfl, rfl⟩
      exact .put found same _
  | arrived _ => exact .of_made rfl
  | fired _ _ found _ =>
      rw [take_store]
      exact .put found (.fire _ _ _) _

/-! ## The keys in use -/

/-- The entry that an operation adds: it comes with a valid policy for a key that is not in use. -/
def addition? (store : Store τ) (op : Op τ) : Option (Value × DebouncerId) :=
  match op.policy? with
  | none => none
  | some (used, _) => match store.registry.get? used with
      | .ok none => some (used, store.registry.made.length)
      | _ => none

section Entries

variable {store : Store τ}

theorem entries_serve (store : Store τ) (id : DebouncerId)
    (request : Request (Work (Op τ) (Reply τ))) (events : List (Event τ)) :
    (serve store id request events).store.registry.entries = store.registry.entries := by
  rw [serve]
  split
  · rfl
  · simp [Store.put, Registry.set]

theorem entries_serveKey (store : Store τ) (key : Value)
    (request : Request (Work (Op τ) (Reply τ))) (otherwise : Answer τ) :
    (serveKey store key request otherwise).store.registry.entries = store.registry.entries := by
  rw [serveKey]
  split
  · rfl
  · rfl
  · exact entries_serve _ _ _ _

theorem entries_sweep (store : Store τ) (deadline : τ) (fired : Nat) :
    (sweep store deadline fired).store.registry.entries = store.registry.entries := by
  rw [sweep]
  split
  · rfl
  · dsimp only
    split
    · rfl
    · simp [Store.put, Registry.set]

theorem entries_resume (frame : Frame τ) (reply : Reply τ) (store : Store τ) :
    (resume frame reply store).store.registry.entries = store.registry.entries := by
  cases frame with
  | serving id tail =>
      rw [resume]
      split <;> rfl
  | advancing deadline fired =>
      cases reply with
      | error fault => rfl
      | ok value => exact entries_sweep _ _ _

theorem entries_guarded (guard : Guard) (key : Value) (work? : Option (Work (Op τ) (Reply τ))) :
    (start (.guarded guard key work?) store).store.registry.entries =
      store.registry.entries ++ (addition? store (.guarded guard key work?)).toList := by
  rw [start, addition?, Op.policy?]
  cases Registry.chooseKey key work? with
  | error fault => simp [Except.bind, answer]
  | ok used =>
      have obtained := Registry.obtained_getOrCreate store.registry used guard.interval
        guard.leading guard.idleTime store.agenda.now
      simp only [Except.bind]
      generalize store.registry.getOrCreate used guard.interval guard.leading guard.idleTime
        store.agenda.now = outcome at obtained
      cases obtained with
      | refused looked =>
          cases Settings.build guard.interval guard.leading guard.idleTime <;> simp [looked, answer]
      | invalid _ built => simp [built, answer]
      | found looked =>
          rw [entries_serve]
          cases Settings.build guard.interval guard.leading guard.idleTime <;> simp [looked]
      | created looked built => simp [looked, built, entries_serve, Registry.insert]

theorem entries_discard (shared : store.Shared) (key : Value) :
    (start (.discard key) store).store.registry.entries =
      (store.registry.without key).entries := by
  have removal := Registry.removal_remove store.registry key
  simp only [start]
  generalize store.registry.remove key = removed at removal
  cases removal with
  | refused looked => rw [Registry.without_eq_self (Registry.find?_of_refused looked)]; rfl
  | absent missing => rw [Registry.without_eq_self missing]; rfl
  | @taken id _ =>
      have parts : Store.Shared { store with registry := store.registry.without key } :=
        shared.of_parts rfl rfl
      exact (resets_resetAll parts [id]).entries

/-- An operation leaves the entries that it does not take out of use, and may add one. -/
theorem entries_start (shared : store.Shared) (op : Op τ) :
    (start op store).store.registry.entries =
      store.registry.entries.filter (fun entry => !op.discards entry.1) ++
        (addition? store op).toList := by
  cases op with
  | guarded guard key work? =>
      rw [entries_guarded, List.filter_eq_self.mpr (by simp [Op.discards])]
  | discard key =>
      rw [entries_discard shared]
      simp [addition?, Op.policy?, Registry.without, Op.discards]
  | clear =>
      have parts : Store.Shared { store with registry := store.registry.emptied } :=
        shared.of_parts rfl rfl
      have emptied : (start .clear store).store.registry.entries = [] :=
        (resets_resetAll parts store.registry.ids).entries
      simp [emptied, Op.discards, addition?, Op.policy?]
  | reset key | flush key | call key =>
      simp [start, entries_serveKey, Op.discards, addition?, Op.policy?]
  | advance delay =>
      cases delay <;> simp [start, answer, entries_sweep, Op.discards, addition?, Op.policy?]
  | contains | workKey | get | now => simp [start, answer, Op.discards, addition?, Op.policy?]

omit [Instant τ] in
/-- The entries that stay are for other keys if the key is taken out of use or was not in use. -/
theorem others_stay {key : Value} (op : Op τ) :
    (∀ entry ∈ store.registry.entries.filter (fun entry => !op.discards entry.1),
        Key.same entry.1 key = false) ↔
      op.discards key = true ∨ store.registry.find? key = none := by
  rw [Registry.find?_eq_none]
  simp only [List.mem_filter, Bool.not_eq_true', and_imp]
  cases taken : op.discards key with
  | true =>
      refine iff_of_true ?_ (.inl rfl)
      intro entry _ stays
      by_contra equal
      rw [discards_congr (by simpa using equal), taken] at stays
      cases stays
  | false =>
      simp only [Bool.false_eq_true, false_or]
      constructor
      · intro others entry member
        by_contra equal
        have stays : op.discards entry.1 = false := by
          rw [discards_congr (by simpa using equal), taken]
        exact equal (others entry member stays)
      · exact fun others entry member _ => others entry member

omit [Instant τ] in
/-- The entry that an operation adds is for another key if the policy it comes with is. -/
theorem new_is_other {key : Value} {op : Op τ}
    (free : op.discards key = true ∨ store.registry.find? key = none) :
    (∀ entry ∈ addition? store op, Key.same entry.1 key = false) ↔ op.policyFor? key = none := by
  rw [policyFor?_eq_none, addition?]
  cases policy : op.policy? with
  | none => simp
  | some pair =>
      obtain ⟨used, settings⟩ := pair
      have absent := free.resolve_left fun taken => by simp [policy?_of_discards taken] at policy
      have looked (same : Key.same used key = true) : store.registry.get? used = .ok none :=
        Registry.get?_of_same same absent
      simp only [Option.some.injEq, Prod.mk.injEq, and_imp]
      constructor
      · rintro others _ _ rfl rfl
        by_contra equal
        have same : Key.same used key = true := by simpa using equal
        simp [looked same, same] at others
      · intro other entry member
        split at member
        · rw [← Option.mem_some.mp member]
          exact other used settings rfl rfl
        · cases member

/-- A key is not in use after an operation if it was not before, or has been taken out of use, and
if the operation comes with no policy for it. -/
theorem find?_start (shared : store.Shared) {key : Value} (op : Op τ) :
    (start op store).store.registry.find? key = none ↔
      (op.discards key = true ∨ store.registry.find? key = none) ∧ op.policyFor? key = none := by
  rw [Registry.find?_eq_none, entries_start shared]
  simp only [List.mem_append, or_imp, forall_and, Option.mem_toList]
  rw [others_stay]
  exact and_congr_right new_is_other

end Entries

end Debounce.RegistrySession
