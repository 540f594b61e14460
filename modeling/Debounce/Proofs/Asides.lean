import Debounce.Proofs.QuietRegistry

/-!
# Operations on other keys

An operation on one key leaves the debouncers under all other keys alone: they stay registered, they
do not change, and their timers stay where they are. The clock does not move either.
-/

namespace Debounce.RegistrySession

variable {τ : Type} {counted : Set WorkId} {key : Value}

/-! ## Operations and their keys -/

/-- The operation is about the key, or it is not about any key. -/
def Op.concerns (key : Value) : Op τ → Bool
  | .guarded _ used work? => match Registry.chooseKey used work? with
      | .ok used => Key.same used key
      | .error _ => false
  | .reset used | .flush used | .discard used | .contains used | .get used | .call used _ =>
      Key.same used key
  | .clear | .workKey _ | .advance _ | .now => true

/-- The work that an operation gives, and the key that it is given under. -/
def Op.given? : Op τ → Option (Value × Work (Op τ) (Reply τ))
  | .guarded _ used (some work) => match Registry.chooseKey used (some work) with
      | .ok used => some (used, work)
      | .error _ => none
  | .call used (some work) => some (used, work)
  | _ => none

/-- The works that are given are quiet. What those under the key return does not depend on how often
works of other keys have run. -/
def Op.Suits (counted : Set WorkId) (key : Value) (op : Op τ) : Prop :=
  ∀ used work, op.given? = some (used, work) → Fits counted (Key.same used key = true) work

/-! ## Leaving a debouncer alone -/

/-- Nothing has happened to the debouncer under the key, and none of the works that are counted has
run. -/
structure Aside (counted : Set WorkId) (key : Value) (store : Store τ) (runs : Runs)
    (after : Store τ) (counts : Runs) : Prop where
  found : after.registry.find? key = store.registry.find? key
  member : ∀ id, store.registry.find? key = some id →
    after.registry.debouncer? id = store.registry.debouncer? id
  time : ∀ id debouncer, store.registry.find? key = some id →
    store.registry.debouncer? id = some debouncer →
    debouncer.time? after.agenda = debouncer.time? store.agenda
  counts : ∀ work ∈ counted, counts work = runs work

namespace Aside

variable {store middle after : Store τ} {runs between counts : Runs} {id : DebouncerId}
variable {debouncer : Member τ}

theorem refl (store : Store τ) (runs : Runs) : Aside counted key store runs store runs :=
  ⟨rfl, fun _ _ => rfl, fun _ _ _ _ => rfl, fun _ _ => rfl⟩

theorem trans (earlier : Aside counted key store runs middle between)
    (later : Aside counted key middle between after counts) :
    Aside counted key store runs after counts where
  found := later.found.trans earlier.found
  member id holder := by
    rw [later.member id (earlier.found.trans holder), earlier.member id holder]
  time id debouncer holder made := by
    have kept := (earlier.member id holder).trans made
    rw [later.time id debouncer (earlier.found.trans holder) kept,
      earlier.time id debouncer holder made]
  counts work member := (later.counts work member).trans (earlier.counts work member)

/-- A debouncer under another key has changed. -/
theorem put {agenda : Agenda τ DebouncerId} (known : id < store.registry.made.length)
    (other : store.registry.find? key ≠ some id)
    (times : ∀ place member, place ≠ id → store.registry.debouncer? place = some member →
      member.time? agenda = member.time? store.agenda)
    (counts : ∀ work ∈ counted, between work = runs work) :
    Aside counted key store runs (store.put id debouncer agenda) between where
  found := rfl
  member place holder := by
    rw [Store.put, Registry.debouncer?_set _ known, if_neg]
    rintro rfl
    exact other holder
  time place member holder made := by
    refine times place member ?_ made
    rintro rfl
    exact other holder
  counts := counts

end Aside

variable [Instant τ]

/-- An operation on another key comes to its end. -/
structure Passes (counted : Set WorkId) (key : Value) (outcome : Outcome τ) (store : Store τ)
    (runs : Runs) (ending : Ending τ (Store τ) (Notice τ)) : Prop where
  ends : Ends outcome runs ending
  quiet : ending.store.Quiet counted key
  now : ending.store.agenda.now = store.agenda.now
  aside : Aside counted key store runs ending.store ending.runs
  unheard : executions (store.registry.find? key) ending.events = []

section Passes

variable {store : Store τ} {runs : Runs} {id : DebouncerId} {debouncer : Member τ}
variable {request : Request (Work (Op τ) (Reply τ))} {events : List (Event τ)} {used : Value}

theorem passes_answer (quiet : store.Quiet counted key) (runs : Runs) (reply : Reply τ) :
    Passes counted key (answer store reply) store runs
      { reply := reply, store := store, runs := runs } :=
  ⟨.finish rfl, quiet, rfl, .refl store runs, rfl⟩

theorem Passes.of_aside {outcome : Outcome τ} {middle : Store τ}
    {ending : Ending τ (Store τ) (Notice τ)}
    (passes : Passes counted key outcome middle runs ending)
    (aside : Aside counted key store runs middle runs)
    (now : middle.agenda.now = store.agenda.now) :
    Passes counted key outcome store runs ending :=
  ⟨passes.ends, passes.quiet, passes.now.trans now, aside.trans passes.aside,
    aside.found ▸ passes.unheard⟩

namespace Store.Quiet

variable (quiet : store.Quiet counted key)
include quiet

theorem exists_passes_serve (member : id ∈ store.registry.ids)
    (found : store.registry.debouncer? id = some debouncer)
    (other : store.registry.find? key ≠ some id)
    (supplies : ∀ work, request.supplied? = some work → Fits counted False work)
    (silent : ∀ event ∈ events, event.work? = none) (runs : Runs) :
    ∃ ending, Passes counted key (serve store id request events) store runs ending := by
  have form := Debouncer.served_serve debouncer store.agenda id request
  have supplied (work) (given : request.supplied? = some work) :
      Fits counted (store.registry.find? key = some id) work :=
    (supplies work given).congr (iff_false_intro other)
  have minds := quiet.minds id debouncer found
  rcases exists_comes form minds (quiet.fits_served member found supplied) runs with
    ⟨reply, left, counts, ran, comes, uncounted⟩
  rcases quiet.ends_take member found supplied silent comes with ⟨notices, ends, own, _, kept⟩
  rcases minds.served form with ⟨_, differs⟩
  simp only [serve, found]
  refine ⟨_, ends, kept, differs.now, ?_, ?_⟩
  · refine .put (quiet.sound.known id member) other ?_ (uncounted other)
    intro place member apart made
    exact (quiet.minds place member made).time?_of_differsAt differs apart
  · apply executions_of_others
    intro notice told
    rw [own notice told]
    exact other

theorem exists_passes_serveKey (apart : Key.same used key = false)
    (supplies : ∀ work, request.supplied? = some work → Fits counted False work)
    (otherwise : Answer τ) (runs : Runs) :
    ∃ ending, Passes counted key (serveKey store used request otherwise) store runs ending := by
  rw [serveKey]
  split
  · exact ⟨_, passes_answer quiet runs _⟩
  · exact ⟨_, passes_answer quiet runs _⟩
  · next id looked =>
      have holder := (Registry.get?_eq_ok looked).2
      have member := Registry.mem_ids_of_find? holder
      rcases quiet.sound.debouncer? member with ⟨debouncer, made⟩
      have other := quiet.sound.find?_ne_of_apart holder apart
      exact quiet.exists_passes_serve member made other supplies (by simp) runs

/-- Another key comes into use. -/
theorem aside_made (runs : Runs) (apart : Key.same used key = false) (settings : Settings) :
    Aside counted key store runs (store.made used settings) runs where
  found := by
    rw [Store.made, Registry.find?_insert, apart, if_neg Bool.false_ne_true, Option.or_none]
  member id holder := by
    have known := quiet.sound.known id (Registry.mem_ids_of_find? holder)
    rw [Store.made, Registry.debouncer?_insert, if_neg known.ne]
  time _ _ _ _ := rfl
  counts _ _ := rfl

theorem exists_passes_guarded {work? : Option (Work (Op τ) (Reply τ))}
    (apart : Key.same used key = false)
    (supplies : ∀ work, (Request.call work?).supplied? = some work → Fits counted False work)
    (guard : Guard) (runs : Runs)
    {obtained : Except Fault
      (DebouncerId × Registry τ (Work (Op τ) (Reply τ)) × List (Event τ))}
    (outcome : Registry.Obtained store.registry used guard.interval guard.leading guard.idleTime
      store.agenda.now obtained) :
    ∃ ending, Passes counted key
      (match obtained with
        | .error fault => answer store (.error fault)
        | .ok (id, registry, events) =>
            serve { store with registry := registry } id (.call work?) events)
      store runs ending := by
  cases outcome with
  | refused _ | invalid _ _ => exact ⟨_, passes_answer quiet runs _⟩
  | found looked =>
      have holder := (Registry.get?_eq_ok looked).2
      have member := Registry.mem_ids_of_find? holder
      rcases quiet.sound.debouncer? member with ⟨debouncer, made⟩
      have other := quiet.sound.find?_ne_of_apart holder apart
      exact quiet.exists_passes_serve member made other supplies (by simp) runs
  | @created settings looked _ =>
      have fresh := (Registry.get?_eq_ok looked).2
      have aside := quiet.aside_made runs apart settings
      have made := quiet.made fresh settings
      have other : (store.made used settings).registry.find? key ≠
          some store.registry.made.length := by
        intro holder
        rw [aside.found] at holder
        exact (quiet.sound.known _ (Registry.mem_ids_of_find? holder)).ne rfl
      have silent : ∀ event ∈ [(Event.registered used.displayText : Event τ)],
          event.work? = none := by simp [Event.work?]
      rcases made.exists_passes_serve (store.mem_ids_made used settings)
        (store.debouncer?_made used settings) other supplies silent runs with ⟨ending, passes⟩
      exact ⟨ending, passes.of_aside aside rfl⟩

theorem exists_passes_discard (apart : Key.same used key = false) (runs : Runs) :
    ∃ ending, Passes counted key (start (.discard used) store) store runs ending := by
  simp only [start]
  have removal := Registry.removal_remove store.registry used
  generalize store.registry.remove used = removed at removal
  cases removal with
  | refused _ | absent _ => exact ⟨_, passes_answer quiet runs _⟩
  | @taken id looked =>
      have shared : Store.Shared { store with registry := store.registry.without used } :=
        quiet.toShared.of_parts rfl rfl
      have resets := resets_resetAll shared [id]
      have found : (store.registry.without used).find? key = store.registry.find? key := by
        rw [Registry.find?_without, apart, if_neg Bool.false_ne_true]
      have other := quiet.sound.find?_ne_of_apart (Registry.get?_eq_ok looked).2 apart
      have others (place) (holder : store.registry.find? key = some place) : place ∉ [id] := by
        rw [List.mem_singleton]
        rintro rfl
        exact other holder
      have aside : Aside counted key store runs _ runs := {
        found := (resets.find?_eq key).trans found
        member := fun place holder => resets.others place (others place holder)
        time := by
          intro place debouncer holder made
          apply (quiet.minds place debouncer made).time?_eq
          rintro spot timer rfl
          exact resets.timers spot timer (others _ holder)
        counts := fun _ _ => rfl }
      refine ⟨_, .finish rfl, quiet.discarded looked resets, resets.now, aside, ?_⟩
      apply executions_eq_nil
      intro notice told
      exact Event.work?_eq_none (not_isExecution_resetAll _ _ told)

/-- An operation on another key comes to its end, and leaves the debouncer under the key alone. -/
theorem exists_passes {op : Op τ} (apart : op.concerns key = false) (suits : op.Suits counted key)
    (runs : Runs) : ∃ ending, Passes counted key (start op store) store runs ending := by
  cases op with
  | guarded guard used work? =>
      rw [start]
      cases chosen : Registry.chooseKey used work? with
      | error fault => exact ⟨_, passes_answer quiet runs _⟩
      | ok used =>
          have differ : Key.same used key = false := by simpa [Op.concerns, chosen] using apart
          refine quiet.exists_passes_guarded differ ?_ guard runs (Registry.obtained_getOrCreate ..)
          rintro work rfl
          exact (suits used work (by simp [Op.given?, chosen])).congr (by simp [differ])
  | reset used | flush used =>
      exact quiet.exists_passes_serveKey apart (fun _ given => by cases given) _ runs
  | call used work? =>
      refine quiet.exists_passes_serveKey apart ?_ _ runs
      rintro work rfl
      have differ : Key.same used key = false := apart
      exact (suits used work rfl).congr (by simp [differ])
  | discard used => exact quiet.exists_passes_discard apart runs
  | contains | get => exact ⟨_, passes_answer quiet runs _⟩
  | clear | workKey | advance | now => cases apart

end Store.Quiet

end Passes

end Debounce.RegistrySession
