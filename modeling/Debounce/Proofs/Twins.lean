import Debounce.Proofs.Sweeps

/-!
# Registries that are alike under a key

Two registries may have any debouncers under other keys. As long as the ones under the key mirror
each other, an operation that concerns the key replies the same in both, runs the same works under
the key and leaves registries that are still alike.
-/

namespace Debounce.RegistrySession

variable {τ : Type} {counted : Set WorkId} {key used : Value}

/-- Nothing is registered under the key in both registries, or debouncers that mirror each other. -/
inductive Paired (key : Value) (store other : Store τ) : Prop where
  | absent :
      store.registry.find? key = none → other.registry.find? key = none → Paired key store other
  | present {id place : DebouncerId} {debouncer opposite : Member τ} :
      store.registry.find? key = some id → other.registry.find? key = some place →
      store.registry.debouncer? id = some debouncer →
      other.registry.debouncer? place = some opposite →
      debouncer.Mirrors opposite store.agenda other.agenda → Paired key store other

section Paired

variable {store other : Store τ} {runs : Runs}

theorem Paired.symm (paired : Paired key store other) : Paired key other store := by
  cases paired with
  | absent absent missing => exact .absent missing absent
  | present holder held found placed mirrors => exact .present held holder placed found mirrors.symm

theorem Paired.aside {after : Store τ} {counts : Runs} (paired : Paired key store other)
    (aside : Aside counted key store runs after counts) : Paired key after other := by
  cases paired with
  | absent absent missing => exact .absent (aside.found.trans absent) missing
  | @present id place debouncer opposite holder held found placed mirrors =>
      have left := (aside.member id holder).trans found
      have times := mirrors.times.trans (aside.time id debouncer holder found).symm
      exact .present (aside.found.trans holder) held left placed ⟨mirrors.fields, times⟩

theorem Paired.exists_mirrors {id : DebouncerId} {debouncer : Member τ}
    (paired : Paired key store other) (holder : store.registry.find? key = some id)
    (found : store.registry.debouncer? id = some debouncer) :
    ∃ place opposite, other.registry.find? key = some place ∧
      other.registry.debouncer? place = some opposite ∧
      debouncer.Mirrors opposite store.agenda other.agenda := by
  cases paired with
  | absent absent _ => cases absent.symm.trans holder
  | present stored held made placed mirrors =>
      obtain rfl := Option.some.inj (stored.symm.trans holder)
      obtain rfl := Option.some.inj (made.symm.trans found)
      exact ⟨_, _, held, placed, mirrors⟩

end Paired

/-- The works that the debouncer under the key has run in an operation. The debouncer is the one
that the operation leaves there, or else the one that it has found. -/
def executionsUnder (key : Value) (store : Store τ) (ending : Ending τ (Store τ) (Notice τ)) :
    List (Execution τ) :=
  executions ((ending.store.registry.find? key).or (store.registry.find? key)) ending.events

section Executions

variable {store : Store τ} {runs counts : Runs} {id : DebouncerId}
variable {ending : Ending τ (Store τ) (Notice τ)}

theorem executionsUnder_eq_nil
    (silent : ∀ notice ∈ ending.events, ¬ notice.event.IsExecution) :
    executionsUnder key store ending = [] :=
  executions_eq_nil fun notice member => Event.work?_eq_none (silent notice member)

theorem executionsUnder_of_found
    (holder : ending.store.registry.find? key = some id) :
    executionsUnder key store ending = executions (some id) ending.events := by
  rw [executionsUnder, holder, Option.some_or]

theorem executionsUnder_of_aside
    (aside : Aside counted key store runs ending.store counts)
    (silent : executions (store.registry.find? key) ending.events = []) :
    executionsUnder key store ending = [] := by
  rw [executionsUnder, aside.found, Option.or_self, silent]

end Executions

variable [Instant τ]

/-- Between operations: two sessions that are alike under the key. -/
structure Twins (counted : Set WorkId) (key : Value) (store : Store τ) (runs : Runs)
    (other : Store τ) (alike : Runs) : Prop where
  left : store.Quiet counted key
  right : other.Quiet counted key
  clocks : other.agenda.now = store.agenda.now
  counts : ∀ work ∈ counted, alike work = runs work
  paired : Paired key store other

/-- Operations come to ends that are alike. -/
structure Parallel (counted : Set WorkId) (key : Value) (store : Store τ) (outcome : Outcome τ)
    (runs : Runs) (ending : Ending τ (Store τ) (Notice τ)) (other : Store τ) (opposite : Outcome τ)
    (alike : Runs) (mirrored : Ending τ (Store τ) (Notice τ)) : Prop where
  ends : Ends outcome runs ending
  opposes : Ends opposite alike mirrored
  twins : Twins counted key ending.store ending.runs mirrored.store mirrored.runs
  executions : executionsUnder key other mirrored = executionsUnder key store ending

/-- Operations come to ends that are alike, with the same reply. -/
def Agrees (counted : Set WorkId) (key : Value) (store : Store τ) (outcome : Outcome τ)
    (runs : Runs) (other : Store τ) (opposite : Outcome τ) (alike : Runs) : Prop :=
  ∃ ending mirrored, Parallel counted key store outcome runs ending other opposite alike mirrored ∧
    mirrored.reply = ending.reply

section Twins

variable {store other before opposed : Store τ} {runs alike : Runs}

/-- An operation on another key in one of the sessions. -/
theorem Twins.aside {after : Store τ} {counts : Runs}
    (twins : Twins counted key store runs other alike)
    (quiet : after.Quiet counted key) (now : after.agenda.now = store.agenda.now)
    (aside : Aside counted key store runs after counts) :
    Twins counted key after counts other alike where
  left := quiet
  right := twins.right
  clocks := twins.clocks.trans now.symm
  counts work member := (twins.counts work member).trans (aside.counts work member).symm
  paired := twins.paired.aside aside

theorem Twins.agrees_answer (twins : Twins counted key store runs other alike) (reply : Reply τ) :
    Agrees counted key before (answer store reply) runs opposed (answer other reply) alike :=
  ⟨_, _, ⟨.finish rfl, .finish rfl, twins, rfl⟩, rfl⟩

section Serving

variable {id place : DebouncerId} {debouncer opposite : Member τ}
variable {request : Request (Work (Op τ) (Reply τ))} {events : List (Event τ)}

/-- The debouncers under the key serve the same request. -/
theorem Twins.agrees_serve (twins : Twins counted key store runs other alike)
    (holder : store.registry.find? key = some id) (held : other.registry.find? key = some place)
    (found : store.registry.debouncer? id = some debouncer)
    (placed : other.registry.debouncer? place = some opposite)
    (mirrors : debouncer.Mirrors opposite store.agenda other.agenda)
    (supplies : ∀ work, request.supplied? = some work → Fits counted True work)
    (silent : ∀ event ∈ events, event.work? = none) :
    Agrees counted key before (serve store id request events) runs opposed
      (serve other place request events) alike := by
  simp only [serve, found, placed]
  have form := Debouncer.served_serve debouncer store.agenda id request
  have minds := twins.left.minds id debouncer found
  have others := twins.right.minds place opposite placed
  rcases minds.served form with ⟨_, differs⟩
  rcases others.served (Debouncer.served_serve opposite other.agenda place request) with
    ⟨_, deviates⟩
  have observed := iff_true_intro holder
  have supplied (work) (given : request.supplied? = some work) :
      Fits counted (store.registry.find? key = some id) work := (supplies work given).congr observed
  have given (work) (given : request.supplied? = some work) :
      Fits counted (other.registry.find? key = some place) work :=
    (supplies work given).congr (iff_true_intro held)
  have member := Registry.mem_ids_of_find? holder
  have fits (work) (has : (debouncer.serve store.agenda id request).debouncer.work = some work) :
      Fits counted True work :=
    (twins.left.fits_served member found supplied work has).congr observed.symm
  have clocks : (opposite.serve other.agenda place request).scheduler.now =
      (debouncer.serve store.agenda id request).scheduler.now :=
    deviates.now.trans (twins.clocks.trans differs.now.symm)
  rcases exists_comes_of_mirrors form minds fits
      (mirrors.serve minds others twins.clocks request) clocks twins.counts with
    ⟨reply, ran, left, counts, right, recounts, comes, arrives, lefts, recounted⟩
  rcases twins.left.ends_take member found supplied silent comes with ⟨_, ends, _, executes, kept⟩
  rcases twins.right.ends_take (Registry.mem_ids_of_find? held) placed given silent arrives with
    ⟨_, opposes, _, mirrored, remains⟩
  have leaves : (store.registry.set id left).debouncer? id = some left := by
    rw [Registry.debouncer?_set _ (Registry.known_of_debouncer? found), if_pos rfl]
  have deposits : (other.registry.set place right).debouncer? place = some right := by
    rw [Registry.debouncer?_set _ (Registry.known_of_debouncer? placed), if_pos rfl]
  refine ⟨_, _, ⟨ends, opposes, ?_, ?_⟩, rfl⟩
  · exact ⟨kept, remains, clocks, recounted, .present holder held leaves deposits lefts⟩
  · rw [executionsUnder_of_found held, executionsUnder_of_found holder]
    exact mirrored.trans executes.symm

theorem Twins.agrees_serveKey (twins : Twins counted key store runs other alike)
    (same : Key.same used key = true)
    (supplies : ∀ work, request.supplied? = some work → Fits counted True work)
    (otherwise : Answer τ) :
    Agrees counted key before (serveKey store used request otherwise) runs opposed
      (serveKey other used request otherwise) alike := by
  rw [serveKey, serveKey]
  cases twins.paired with
  | absent absent missing =>
      rw [Registry.get?_of_same same absent, Registry.get?_of_same same missing]
      exact twins.agrees_answer _
  | present holder held found placed mirrors =>
      rw [Registry.get?_of_same same holder, Registry.get?_of_same same held]
      exact twins.agrees_serve holder held found placed mirrors supplies (by simp)

theorem Twins.mirrors_new (twins : Twins counted key store runs other alike) (settings : Settings)
    (name : Value) :
    (Debouncer.new settings name store.agenda.now : Member τ).Mirrors
      (.new settings name other.agenda.now) store.agenda other.agenda := by
  rw [twins.clocks]
  exact .of_timer_eq_none (by simp [Debouncer.new])

/-- The key comes into use in both sessions. -/
theorem Twins.made (twins : Twins counted key store runs other alike)
    (same : Key.same used key = true) (absent : store.registry.find? key = none)
    (missing : other.registry.find? key = none) (settings : Settings) :
    Twins counted key (store.made used settings) runs (other.made used settings) alike where
  left := twins.left.made ((Registry.find?_congr same).trans absent) settings
  right := twins.right.made ((Registry.find?_congr same).trans missing) settings
  clocks := twins.clocks
  counts := twins.counts
  paired := .present (Store.find?_made absent same settings)
    (Store.find?_made missing same settings) (store.debouncer?_made used settings)
    (other.debouncer?_made used settings) (twins.mirrors_new settings _)

theorem Twins.agrees_guarded {work? : Option (Work (Op τ) (Reply τ))}
    (twins : Twins counted key store runs other alike) (same : Key.same used key = true)
    (supplies : ∀ work, (Request.call work?).supplied? = some work → Fits counted True work)
    {guard : Guard} {asked : Value} (chosen : Registry.chooseKey asked work? = .ok used) :
    Agrees counted key before (start (.guarded guard asked work?) store) runs opposed
      (start (.guarded guard asked work?) other) alike := by
  simp only [start, chosen, Except.bind]
  cases twins.paired with
  | absent absent missing =>
      have looked := Registry.get?_of_same same absent
      have mirrored := Registry.get?_of_same same missing
      cases built : Settings.build guard.interval guard.leading guard.idleTime with
      | error fault =>
          rw [Registry.getOrCreate_of_invalid looked built,
            Registry.getOrCreate_of_invalid mirrored built]
          exact twins.agrees_answer _
      | ok settings =>
          rw [Registry.getOrCreate_of_absent looked built,
            Registry.getOrCreate_of_absent mirrored built]
          have silent : ∀ event ∈ [(Event.registered used.displayText : Event τ)],
              event.work? = none := by simp [Event.work?]
          have made := twins.made same absent missing settings
          exact made.agrees_serve (Store.find?_made absent same settings)
            (Store.find?_made missing same settings) (store.debouncer?_made used settings)
            (other.debouncer?_made used settings) (twins.mirrors_new settings _) supplies silent
  | present holder held found placed mirrors =>
      have looked := Registry.get?_of_same same holder
      have mirrored := Registry.get?_of_same same held
      rw [Registry.getOrCreate_of_found looked, Registry.getOrCreate_of_found mirrored]
      exact twins.agrees_serve holder held found placed mirrors supplies (by simp)

end Serving

/-! ## Operations that run nothing -/

theorem Twins.agrees_silent {notices told : List (Notice τ)}
    (twins : Twins counted key store runs other alike)
    (silent : ∀ notice ∈ notices, ¬ notice.event.IsExecution)
    (unheard : ∀ notice ∈ told, ¬ notice.event.IsExecution) (reply : Reply τ) :
    Agrees counted key before (answer store reply notices) runs opposed (answer other reply told)
      alike := by
  refine ⟨_, _, ⟨.finish rfl, .finish rfl, twins, ?_⟩, rfl⟩
  exact (executionsUnder_eq_nil unheard).trans (executionsUnder_eq_nil silent).symm

/-- Nothing is registered under the key any more. -/
structure Drops (counted : Set WorkId) (key : Value) (store after : Store τ) : Prop where
  quiet : after.Quiet counted key
  now : after.agenda.now = store.agenda.now
  absent : after.registry.find? key = none

theorem Drops.twins {after final : Store τ} (drops : Drops counted key store after)
    (twins : Twins counted key store runs other alike) (mirrored : Drops counted key other final) :
    Twins counted key after runs final alike where
  left := drops.quiet
  right := mirrored.quiet
  clocks := mirrored.now.trans (twins.clocks.trans drops.now.symm)
  counts := twins.counts
  paired := .absent drops.absent mirrored.absent

theorem Store.Quiet.drops_discard {id : DebouncerId} (quiet : store.Quiet counted key)
    (same : Key.same used key = true) (looked : store.registry.get? used = .ok (some id)) :
    Drops counted key store
      (resetAll { store with registry := store.registry.without used } [id]).1 := by
  have shared : Store.Shared { store with registry := store.registry.without used } :=
    quiet.toShared.of_parts rfl rfl
  have resets := resets_resetAll shared [id]
  refine ⟨quiet.discarded looked resets, resets.now, ?_⟩
  rw [resets.find?_eq, Registry.find?_without, if_pos same]

theorem Store.Quiet.drops_clear (quiet : store.Quiet counted key) :
    Drops counted key store
      (resetAll { store with registry := store.registry.emptied } store.registry.ids).1 := by
  have shared : Store.Shared { store with registry := store.registry.emptied } :=
    quiet.toShared.of_parts rfl rfl
  have resets := resets_resetAll shared store.registry.ids
  exact ⟨quiet.cleared resets, resets.now, (resets.find?_eq key).trans Registry.find?_emptied⟩

theorem Twins.agrees_discard (twins : Twins counted key store runs other alike)
    (same : Key.same used key = true) :
    Agrees counted key before (start (.discard used) store) runs opposed
      (start (.discard used) other) alike := by
  cases twins.paired with
  | absent absent missing =>
      have looked := Registry.get?_of_same same absent
      have mirrored := Registry.get?_of_same same missing
      simp only [start, Registry.remove_of_absent looked, Registry.remove_of_absent mirrored]
      exact twins.agrees_answer _
  | present holder held found placed mirrors =>
      have looked := Registry.get?_of_same same holder
      have mirrored := Registry.get?_of_same same held
      simp only [start, Registry.remove_of_found looked, Registry.remove_of_found mirrored]
      have dropped := (twins.left.drops_discard same looked).twins twins
        (twins.right.drops_discard same mirrored)
      exact dropped.agrees_silent (fun _ => not_isExecution_resetAll _ _)
        (fun _ => not_isExecution_resetAll _ _) _

theorem Twins.agrees_clear (twins : Twins counted key store runs other alike) :
    Agrees counted key before (start .clear store) runs opposed (start .clear other) alike := by
  have dropped := twins.left.drops_clear.twins twins twins.right.drops_clear
  exact dropped.agrees_silent (fun _ => not_isExecution_resetAll _ _)
    (fun _ => not_isExecution_resetAll _ _) _

/-- What is told about the debouncers under the key is the same. -/
theorem Twins.describe_eq (twins : Twins counted key store runs other alike)
    (same : Key.same used key = true) : describe other used = describe store used := by
  rw [describe, describe]
  cases twins.paired with
  | absent absent missing =>
      rw [Registry.get?_of_same same absent, Registry.get?_of_same same missing]
  | present holder held found placed mirrors =>
      rw [Registry.get?_of_same same holder, Registry.get?_of_same same held]
      simp only [found, placed]
      rw [mirrors.fields]
      rfl

theorem Twins.contains_eq (twins : Twins counted key store runs other alike)
    (same : Key.same used key = true) :
    ((other.registry.get? used).map fun id? => (.flag id?.isSome : Answer τ)) =
      (store.registry.get? used).map fun id? => .flag id?.isSome := by
  cases twins.paired with
  | absent absent missing =>
      rw [Registry.get?_of_same same absent, Registry.get?_of_same same missing]
  | present holder held found placed mirrors =>
      rw [Registry.get?_of_same same holder, Registry.get?_of_same same held]
      rfl

/-! ## Advances -/

section Advancing

variable {deadline : τ} {fired : Nat} {ending mirrored : Ending τ (Store τ) (Notice τ)}

/-- A timer that does not fire in one session is not due in the other. -/
theorem Paired.late (paired : Paired key store other)
    (late : ∀ id debouncer time, store.registry.find? key = some id →
      store.registry.debouncer? id = some debouncer →
      debouncer.time? store.agenda = some time → ¬ time ≤ deadline)
    {place : DebouncerId} {opposite : Member τ} {time : τ}
    (held : other.registry.find? key = some place)
    (placed : other.registry.debouncer? place = some opposite)
    (timed : opposite.time? other.agenda = some time) : ¬ time ≤ deadline := by
  rcases paired.symm.exists_mirrors held placed with ⟨id, debouncer, holder, found, mirrors⟩
  exact late id debouncer time holder found (mirrors.times.trans timed)

/-- The timers of the debouncers under the key fire in both sessions, or in none. -/
theorem Twins.swept (twins : Twins counted key store runs other alike)
    (quiet : ending.store.Quiet counted key) (remains : mirrored.store.Quiet counted key)
    (clocks : mirrored.store.agenda.now = ending.store.agenda.now)
    (swept : Swept counted key deadline store runs ending)
    (opposite : Swept counted key deadline other alike mirrored) :
    Twins counted key ending.store ending.runs mirrored.store mirrored.runs ∧
      executionsUnder key other mirrored = executionsUnder key store ending := by
  cases swept with
  | spared aside late silent =>
      cases opposite with
      | spared apart _ unheard =>
          have paired := ((twins.paired.aside aside).symm.aside apart).symm
          refine ⟨⟨quiet, remains, clocks, ?_, paired⟩, ?_⟩
          · intro work member
            rw [apart.counts work member, aside.counts work member, twins.counts work member]
          · rw [executionsUnder_of_aside apart unheard, executionsUnder_of_aside aside silent]
      | fired held placed _ timed due => exact absurd due (twins.paired.late late held placed timed)
  | @fired id debouncer work time holder found supplied timed due kept left counts executes =>
      cases opposite with
      | spared _ late _ => exact absurd due (twins.paired.symm.late late holder found timed)
      | fired held placed given sets _ stays right recounts mirrored =>
          rcases twins.paired.exists_mirrors holder found with ⟨_, _, holds, opposed, mirrors⟩
          obtain rfl := Option.some.inj (holds.symm.trans held)
          obtain rfl := Option.some.inj (opposed.symm.trans placed)
          obtain rfl := Option.some.inj (sets.symm.trans (mirrors.times.trans timed))
          have same := congrArg Debouncer.work mirrors.fields
          obtain rfl := Option.some.inj (given.symm.trans (same.trans supplied))
          rw [mirrors.fields] at right
          refine ⟨⟨quiet, remains, clocks, ?_, ?_⟩, ?_⟩
          · intro work member
            rw [recounts work member, counts work member]
            exact Runs.count_congr (twins.counts work member) _
          · exact .present kept stays left right (.of_timer_eq_none rfl)
          · rw [executionsUnder_of_found stays, executionsUnder_of_found kept, mirrored, executes,
              twins.clocks]

theorem Twins.exists_parallel_sweep [Instant.LawfulTies τ]
    (twins : Twins counted key store runs other alike) (delay : τ) :
    ∃ ending mirrored, Parallel counted key store (sweep store (store.agenda.now + delay) 0) runs
      ending other (sweep other (other.agenda.now + delay) 0) alike mirrored := by
  have ahead : store.agenda.now < store.agenda.now + delay →
      Instant.Summed (store.agenda.now + delay) := .ahead
  rw [twins.clocks]
  generalize store.agenda.now + delay = deadline at ahead ⊢
  have behind : other.agenda.now < deadline → Instant.Summed deadline := by rwa [twins.clocks]
  rcases twins.left.exists_sweeps ahead 0 runs with ⟨ending, sweeps⟩
  rcases twins.right.exists_sweeps behind 0 alike with ⟨mirrored, follows⟩
  have clocks : mirrored.store.agenda.now = ending.store.agenda.now := by
    rw [sweeps.now, follows.now, twins.clocks]
  rcases twins.swept sweeps.quiet follows.quiet clocks sweeps.swept follows.swept with
    ⟨after, executes⟩
  exact ⟨ending, mirrored, sweeps.ends, follows.ends, after, executes⟩

end Advancing

/-! ## All operations -/

/-- The reply of an operation on keys. An advance counts the timers of all keys, which is not a
reply about any one of them. -/
def Op.shown? (reply : Reply τ) : Op τ → Option (Reply τ)
  | .advance _ => none
  | _ => some reply

/-- An operation that concerns the key comes to ends that are alike. -/
theorem Twins.step [Instant.LawfulTies τ] {op : Op τ}
    (twins : Twins counted key store runs other alike) (concerns : op.concerns key = true)
    (suits : op.Suits counted key) :
    ∃ ending mirrored,
      Parallel counted key store (start op store) runs ending other (start op other) alike
          mirrored ∧
        op.shown? mirrored.reply = op.shown? ending.reply := by
  -- Only an advance may reply differently.
  suffices agrees : (∃ delay, op = .advance (.ok delay)) ∨
      Agrees counted key store (start op store) runs other (start op other) alike by
    rcases agrees with ⟨delay, rfl⟩ | ⟨ending, mirrored, parallel, replies⟩
    · rcases twins.exists_parallel_sweep delay with ⟨ending, mirrored, parallel⟩
      exact ⟨ending, mirrored, parallel, rfl⟩
    · exact ⟨ending, mirrored, parallel, congrArg op.shown? replies⟩
  have fits {used : Value} {work : Work (Op τ) (Reply τ)} (given : op.given? = some (used, work))
      (same : Key.same used key = true) : Fits counted True work :=
    (suits used work given).congr (iff_true_intro same).symm
  cases op with
  | advance delay =>
      cases delay with
      | ok delay => exact .inl ⟨delay, rfl⟩
      | error fault => exact .inr (twins.agrees_answer _)
  | guarded guard asked work? =>
      refine .inr ?_
      cases chosen : Registry.chooseKey asked work? with
      | error fault => simp [Op.concerns, chosen] at concerns
      | ok used =>
          have same : Key.same used key = true := by simpa [Op.concerns, chosen] using concerns
          refine twins.agrees_guarded same ?_ chosen
          rintro work rfl
          exact fits (by simp [Op.given?, chosen]) same
  | call used work? =>
      refine .inr (twins.agrees_serveKey concerns ?_ _)
      rintro work rfl
      exact fits rfl concerns
  | reset used | flush used =>
      exact .inr (twins.agrees_serveKey concerns (fun _ given => by cases given) _)
  | discard used => exact .inr (twins.agrees_discard concerns)
  | clear => exact .inr twins.agrees_clear
  | contains used =>
      have told := twins.contains_eq concerns
      rw [start, start, told]
      exact .inr (twins.agrees_answer _)
  | get used =>
      have told := twins.describe_eq concerns
      rw [start, start, told]
      exact .inr (twins.agrees_answer _)
  | workKey work? => exact .inr (twins.agrees_answer _)
  | now =>
      rw [start, start, twins.clocks]
      exact .inr (twins.agrees_answer _)

end Twins

end Debounce.RegistrySession
