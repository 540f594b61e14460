import Debounce.Proofs.Keys
import Debounce.Proofs.Turn

/-!
# Registries as maps

A registry maps classes of keys to debouncers: no two of its keys are the same, and no debouncer is
registered twice. This module says what looking up, registering and taking out of use do to it, and
that a debouncer that is registered has the policy it was asked for.
-/

namespace Debounce

variable {τ ω : Type}

/-! ## Policies and their values -/

theorem Value.toSpan_duration {span : Duration} (nonneg : Duration.zero ≤ span)
    (negative : Refusal) : (Value.duration span).toSpan negative = .ok ⟨span, nonneg⟩ := by
  rw [toSpan]
  split
  · next same =>
      cases same
      rw [dif_pos nonneg]
  · next failed => cases failed

/-- Reading the values of a policy gives the policy back. -/
theorem Settings.check_values (settings : Settings) :
    Settings.check settings.intervalValue settings.leadingValue settings.idleTimeValue =
      .ok settings := by
  rcases settings with ⟨interval, leading, idleTime, nonneg⟩
  cases idleTime with
  | none => cases interval <;> rfl
  | some span =>
      have idle : (Value.duration span).toSpan? .negativeIdleTime =
          .ok (some ⟨span, nonneg span rfl⟩) := by
        rw [Value.toSpan?, Value.toSpan_duration (nonneg span rfl)]
        · rfl
        · simp
      simp only [check, idleTimeValue, idle]
      cases interval <;> rfl

theorem Debouncer.ofSettings_eq [Instant τ] (settings : Settings) (name : Value) (now : τ) :
    (Debouncer.ofSettings settings name now : Except Fault (Debouncer τ ω)) =
      .ok (.new settings name now) := by
  rw [ofSettings, create, Settings.build, Settings.check_values]
  rfl

/-! ## Looking up -/

namespace Registry

variable {registry : Registry τ ω} {key other : Value} {id : DebouncerId}
variable {debouncer : Debouncer τ ω}

/-- The debouncers that are registered. -/
def ids (registry : Registry τ ω) : List DebouncerId := registry.entries.map Prod.snd

/-- The registry without a key. -/
def without (registry : Registry τ ω) (key : Value) : Registry τ ω :=
  { registry with entries := registry.entries.filter fun entry => !Key.same entry.1 key }

/-- The registry without any key. -/
def emptied (registry : Registry τ ω) : Registry τ ω := { registry with entries := [] }

/-- No two keys are the same, and each stands for a debouncer of its own. -/
structure Sound (registry : Registry τ ω) : Prop where
  known : ∀ id ∈ registry.ids, id < registry.made.length
  once : registry.ids.Nodup
  apart : registry.entries.Pairwise fun entry other => Key.same entry.1 other.1 = false

theorem mem_ids : id ∈ registry.ids ↔ ∃ key, (key, id) ∈ registry.entries := by
  simp [ids]

theorem find?_eq_some (found : registry.find? key = some id) :
    ∃ other, (other, id) ∈ registry.entries ∧ Key.same other key = true := by
  simp only [find?, Option.map_eq_some_iff] at found
  rcases found with ⟨⟨other, id⟩, found, rfl⟩
  exact ⟨other, List.mem_of_find?_eq_some found, by simpa using List.find?_some found⟩

theorem find?_eq_none :
    registry.find? key = none ↔ ∀ entry ∈ registry.entries, Key.same entry.1 key = false := by
  simp [find?]

theorem mem_ids_of_find? (found : registry.find? key = some id) : id ∈ registry.ids := by
  rcases find?_eq_some found with ⟨other, member, _⟩
  exact mem_ids.mpr ⟨other, member⟩

/-- Keys that are the same find the same. -/
theorem find?_congr (same : Key.same key other = true) :
    registry.find? key = registry.find? other := by
  have tests : (fun entry : Value × DebouncerId => Key.same entry.1 key) =
      fun entry => Key.same entry.1 other := by
    funext entry
    exact Key.same_right same entry.1
  rw [find?, find?, tests]

theorem get?_of_check (accepted : Key.check key = .ok ()) :
    registry.get? key = .ok (registry.find? key) := by
  rw [get?, accepted]

theorem get?_of_same {id? : Option DebouncerId} (same : Key.same key other = true)
    (found : registry.find? other = id?) : registry.get? key = .ok id? := by
  rw [get?_of_check (Key.check_of_same same), find?_congr same, found]

theorem get?_eq_ok {id? : Option DebouncerId} (found : registry.get? key = .ok id?) :
    Key.check key = .ok () ∧ registry.find? key = id? := by
  rw [get?] at found
  split at found
  · next accepted => exact ⟨accepted, Except.ok.inj found⟩
  · cases found

@[simp] theorem find?_set : (registry.set id debouncer).find? key = registry.find? key := rfl

@[simp] theorem get?_set : (registry.set id debouncer).get? key = registry.get? key := rfl

@[simp] theorem ids_set : (registry.set id debouncer).ids = registry.ids := rfl

@[simp] theorem length_made_set :
    (registry.set id debouncer).made.length = registry.made.length := List.length_set

theorem debouncer?_set (registry : Registry τ ω) (known : id < registry.made.length)
    (debouncer : Debouncer τ ω) (place : DebouncerId) :
    (registry.set id debouncer).debouncer? place =
      if place = id then some debouncer else registry.debouncer? place := by
  rw [debouncer?, debouncer?, set, List.getElem?_set]
  grind

@[simp] theorem set_debouncer? (found : registry.debouncer? id = some debouncer) :
    registry.set id debouncer = registry := by
  rcases List.getElem?_eq_some_iff.mp found with ⟨below, rfl⟩
  rw [set, List.set_getElem_self]

theorem known_of_debouncer? (found : registry.debouncer? id = some debouncer) :
    id < registry.made.length := (List.getElem?_eq_some_iff.mp found).1

theorem Sound.debouncer? (sound : registry.Sound) (member : id ∈ registry.ids) :
    ∃ debouncer, registry.debouncer? id = some debouncer :=
  ⟨_, List.getElem?_eq_getElem (sound.known id member)⟩

theorem debouncer?_insert (registry : Registry τ ω) (key : Value) (debouncer : Debouncer τ ω)
    (place : DebouncerId) :
    (registry.insert key debouncer).2.debouncer? place =
      if place = registry.made.length then some debouncer else registry.debouncer? place := by
  simp only [insert, Registry.debouncer?]
  grind

/-- A key that is registered is found, and so are the keys that are the same. -/
theorem find?_insert (registry : Registry τ ω) (key : Value) (debouncer : Debouncer τ ω)
    (other : Value) :
    (registry.insert key debouncer).2.find? other =
      (registry.find? other).or
        (if Key.same key other then some registry.made.length else none) := by
  simp only [find?, insert, List.find?_append, List.find?_singleton]
  cases List.find? (fun entry => Key.same entry.1 other) registry.entries with
  | some entry => rfl
  | none => cases Key.same key other <;> rfl

/-- A key that is taken out of use is not found, and neither are the keys that are the same. -/
theorem find?_without (registry : Registry τ ω) (key other : Value) :
    (registry.without key).find? other =
      if Key.same key other then none else registry.find? other := by
  cases same : Key.same key other with
  | true =>
      rw [if_pos rfl, find?_eq_none]
      intro entry member
      have kept : Key.same entry.1 key = false := by
        simpa [without] using (List.mem_filter.mp member).2
      rw [← Key.same_right same, kept]
  | false =>
      rw [if_neg Bool.false_ne_true, find?, find?, without, List.find?_filter]
      congr 2
      funext entry
      cases found : Key.same entry.1 other with
      | false => simp
      | true =>
          have apart : Key.same entry.1 key = false := by
            rw [Key.same_left found, Key.same_comm, same]
          simp [apart]

@[simp] theorem find?_emptied : registry.emptied.find? key = none := rfl

@[simp] theorem debouncer?_without :
    (registry.without key).debouncer? id = registry.debouncer? id := rfl

@[simp] theorem debouncer?_emptied : registry.emptied.debouncer? id = registry.debouncer? id := rfl

namespace Sound

theorem set (sound : registry.Sound) (id : DebouncerId) (debouncer : Debouncer τ ω) :
    (registry.set id debouncer).Sound :=
  ⟨by simpa using sound.known, sound.once, sound.apart⟩

theorem insert (sound : registry.Sound) (fresh : registry.find? key = none)
    (debouncer : Debouncer τ ω) : (registry.insert key debouncer).2.Sound := by
  refine ⟨?_, ?_, ?_⟩
  · intro id member
    simp only [ids, Registry.insert, List.map_append, List.mem_append, List.map_cons, List.map_nil,
      List.mem_singleton, List.length_append, List.length_singleton] at member ⊢
    rcases member with before | rfl
    · exact Nat.lt_succ_of_lt (sound.known id before)
    · exact Nat.lt_succ_self _
  · simp only [ids, Registry.insert, List.map_append, List.map_cons, List.map_nil]
    refine List.nodup_append.mpr ⟨sound.once, by simp, ?_⟩
    intro id member other last same
    have below := sound.known id member
    rw [same, List.mem_singleton.mp last] at below
    exact Nat.lt_irrefl _ below
  · simp only [Registry.insert]
    refine List.pairwise_append.mpr ⟨sound.apart, by simp, ?_⟩
    intro entry member last single
    rw [List.mem_singleton.mp single]
    exact find?_eq_none.mp fresh entry member

theorem without (sound : registry.Sound) (key : Value) : (registry.without key).Sound := by
  have kept : (registry.without key).entries.Sublist registry.entries := List.filter_sublist
  exact ⟨fun id member => sound.known id ((kept.map Prod.snd).subset member),
    sound.once.sublist (kept.map Prod.snd), sound.apart.sublist kept⟩

theorem emptied (registry : Registry τ ω) : registry.emptied.Sound :=
  ⟨by simp [ids, Registry.emptied], List.nodup_nil, List.Pairwise.nil⟩

/-- An entry is found under every key that is the same as its own. -/
theorem find?_of_mem (sound : registry.Sound) (member : (other, id) ∈ registry.entries)
    (same : Key.same other key = true) : registry.find? key = some id := by
  cases found : registry.find? key with
  | none => simp [find?_eq_none.mp found _ member] at same
  | some first =>
      rcases find?_eq_some found with ⟨firstKey, firstMember, firstSame⟩
      by_contra apart
      have symmetric : Std.Symm fun entry other : Value × DebouncerId =>
          Key.same entry.1 other.1 = false := by
        constructor
        intro entry other unlike
        rw [Key.same_comm, unlike]
      have unlike := sound.apart.forall firstMember member (by grind)
      rw [Key.same_trans firstSame (Key.same_symm same)] at unlike
      cases unlike

/-- A debouncer is not found under keys that differ. -/
theorem find?_ne_of_apart (sound : registry.Sound) (found : registry.find? other = some id)
    (apart : Key.same other key = false) : registry.find? key ≠ some id := by
  intro holder
  rcases find?_eq_some found with ⟨first, firstMember, firstSame⟩
  rcases find?_eq_some holder with ⟨second, secondMember, secondSame⟩
  cases List.inj_on_of_nodup_map sound.once firstMember secondMember rfl
  rw [← Key.same_left firstSame, secondSame] at apart
  cases apart

/-- Taking a key out of use takes its debouncer out of use, and no other. -/
theorem mem_ids_without (sound : registry.Sound) (found : registry.find? key = some id)
    (place : DebouncerId) :
    place ∈ (registry.without key).ids ↔ place ∈ registry.ids ∧ place ≠ id := by
  rcases find?_eq_some found with ⟨first, firstMember, same⟩
  simp only [mem_ids, Registry.without, List.mem_filter, Bool.not_eq_true']
  constructor
  · rintro ⟨other, member, apart⟩
    refine ⟨⟨other, member⟩, ?_⟩
    rintro rfl
    have one := List.inj_on_of_nodup_map sound.once firstMember member rfl
    cases one
    rw [same] at apart
    cases apart
  · rintro ⟨⟨other, member⟩, different⟩
    refine ⟨other, member, ?_⟩
    by_contra equal
    have foundOther := sound.find?_of_mem member (by simpa using equal)
    rw [found] at foundOther
    exact different (Option.some.inj foundOther).symm

theorem of_parts {after : Registry τ ω} (sound : registry.Sound)
    (entries : after.entries = registry.entries)
    (length : after.made.length = registry.made.length) : after.Sound :=
  ⟨by simpa [ids, entries, length] using sound.known, by simpa [ids, entries] using sound.once,
    by simpa [entries] using sound.apart⟩

end Sound

/-! ## The outcomes of registering and of taking out of use -/

/-- A key that is not in use cannot be taken out of use. -/
theorem without_eq_self (absent : registry.find? key = none) : registry.without key = registry := by
  have all : registry.entries.filter (fun entry => !Key.same entry.1 key) = registry.entries := by
    apply List.filter_eq_self.mpr
    intro entry member
    simp [find?_eq_none.mp absent entry member]
  rw [without, all]

/-- What is refused as a key is not in use. -/
theorem find?_of_refused {fault : Fault} (refused : registry.get? key = .error fault) :
    registry.find? key = none := by
  rw [find?_eq_none]
  intro entry _
  by_contra equal
  have same : Key.same key entry.1 = true := Key.same_symm (by simpa using equal)
  rw [get?_of_check (Key.check_of_same same)] at refused
  cases refused

/-- The outcomes of taking a key out of use. -/
inductive Removal (registry : Registry τ ω) (key : Value) :
    Except Fault (Option DebouncerId × Registry τ ω) → Prop where
  | refused {fault : Fault} :
      registry.get? key = .error fault → Removal registry key (.error fault)
  | absent : registry.find? key = none → Removal registry key (.ok (none, registry))
  | taken {id : DebouncerId} :
      registry.get? key = .ok (some id) →
      Removal registry key (.ok (some id, registry.without key))

theorem removal_remove (registry : Registry τ ω) (key : Value) :
    Removal registry key (registry.remove key) := by
  rw [remove]
  split
  · next empty => exact .absent (by simp [find?, List.isEmpty_iff.mp empty])
  · split
    · next looked => exact .refused looked
    · next id? found =>
        cases id? with
        | some id => exact .taken found
        | none =>
            have absent := (get?_eq_ok found).2
            have kept : Removal registry key (.ok (none, registry.without key)) := by
              rw [without_eq_self absent]
              exact .absent absent
            exact kept

theorem remove_of_found (found : registry.get? key = .ok (some id)) :
    registry.remove key = .ok (some id, registry.without key) := by
  have removal := registry.removal_remove key
  generalize registry.remove key = removed at removal ⊢
  cases removal with
  | refused refused => cases found.symm.trans refused
  | absent absent => cases (get?_eq_ok found).2.symm.trans absent
  | taken taken =>
      cases found.symm.trans taken
      rfl

theorem remove_of_absent (absent : registry.get? key = .ok none) :
    registry.remove key = .ok (none, registry) := by
  have removal := registry.removal_remove key
  generalize registry.remove key = removed at removal ⊢
  cases removal with
  | refused refused => cases absent.symm.trans refused
  | absent _ => rfl
  | taken taken => cases absent.symm.trans taken

variable [Instant τ]

section Asking

variable {interval leading idleTime : Value} {now : τ}

theorem getOrCreate_of_found (found : registry.get? key = .ok (some id)) :
    registry.getOrCreate key interval leading idleTime now = .ok (id, registry, []) := by
  rw [getOrCreate, found]
  rfl

theorem getOrCreate_of_invalid {fault : Fault} (absent : registry.get? key = .ok none)
    (invalid : Settings.build interval leading idleTime = .error fault) :
    registry.getOrCreate key interval leading idleTime now = .error fault := by
  rw [getOrCreate, absent, invalid]
  rfl

theorem getOrCreate_of_absent {settings : Settings} (absent : registry.get? key = .ok none)
    (valid : Settings.build interval leading idleTime = .ok settings) :
    registry.getOrCreate key interval leading idleTime now =
      .ok (registry.made.length,
        (registry.insert key (.new settings (.text key.displayText) now)).2,
        [.registered key.displayText]) := by
  simp [getOrCreate, absent, valid, bind, Except.bind, Debouncer.ofSettings_eq, insert]

end Asking

variable (registry key) (interval leading idleTime : Value) (now : τ)

/-- The outcomes of asking for the debouncer under a key. -/
inductive Obtained : Except Fault (DebouncerId × Registry τ ω × List (Event τ)) → Prop where
  | refused {fault : Fault} : registry.get? key = .error fault → Obtained (.error fault)
  | invalid {fault : Fault} :
      registry.get? key = .ok none → Settings.build interval leading idleTime = .error fault →
      Obtained (.error fault)
  | found {id : DebouncerId} :
      registry.get? key = .ok (some id) → Obtained (.ok (id, registry, []))
  | created {settings : Settings} :
      registry.get? key = .ok none → Settings.build interval leading idleTime = .ok settings →
      Obtained (.ok (registry.made.length,
        (registry.insert key (.new settings (.text key.displayText) now)).2,
        [.registered key.displayText]))

theorem obtained_getOrCreate :
    Obtained registry key interval leading idleTime now
      (registry.getOrCreate key interval leading idleTime now) := by
  cases looked : registry.get? key with
  | error fault =>
      rw [getOrCreate, looked]
      exact .refused looked
  | ok id? =>
      cases id? with
      | some id =>
          rw [getOrCreate_of_found looked]
          exact .found looked
      | none =>
          cases built : Settings.build interval leading idleTime with
          | error fault =>
              rw [getOrCreate_of_invalid looked built]
              exact .invalid looked built
          | ok settings =>
              rw [getOrCreate_of_absent looked built]
              exact .created looked built

end Registry

end Debounce
