import Debounce.Proofs.Registrations
import Debounce.Proofs.Shared
import Debounce.Session.Registered

/-!
# Runs of a session with a registry

The debouncers of a registry share the agenda of the session. In every state of a run each of them
minds it, every pending timer belongs to one of them, and those that hold a timer are registered.
A section of an operation serves a request of one debouncer, makes a debouncer, drops some, or does
one of a few other things; an invariant is proved once for each.
-/

namespace Debounce

namespace RegistrySession

variable {τ : Type}

/-- A state of a run of a session. -/
abbrev State (τ : Type) := Config (Op τ) (Reply τ) (Store τ) (Frame τ) (Notice τ)

/-- What the run of a session has recorded. -/
abbrev History (τ : Type) := List (Moment (Op τ) (Reply τ) (Notice τ))

/-- The debouncers of a session. -/
abbrev Member (τ : Type) := Debouncer τ (Work (Op τ) (Reply τ))

/-- The first state of a session with an empty registry, whose clock starts at the given reading.
-/
def State.initial (clock : τ) (script : Script (Op τ) (Reply τ)) : State τ :=
  { store := .new clock, script := script }

namespace Store

/-- The store with a debouncer and the agenda as they are after a turn. -/
def put (store : Store τ) (id : DebouncerId) (debouncer : Member τ)
    (agenda : Agenda τ DebouncerId) : Store τ :=
  { agenda := agenda, registry := store.registry.set id debouncer }

/-- The debouncers mind the agenda, and every pending timer is set for one of them. -/
structure Shared (store : Store τ) : Prop where
  minds : ∀ id debouncer, store.registry.debouncer? id = some debouncer →
    debouncer.Minds id store.agenda
  owned : ∀ place timer, store.agenda.pending? place = some timer →
    timer.callback < store.registry.made.length

/-- The debouncers share the agenda, and those that hold a timer are registered. -/
structure Coherent (store : Store τ) : Prop extends Shared store where
  sound : store.registry.Sound
  registered : ∀ id debouncer, store.registry.debouncer? id = some debouncer →
    debouncer.timer.isSome → id ∈ store.registry.ids

section Shared

variable {store : Store τ} {id : DebouncerId} {debouncer : Member τ}
variable {agenda : Agenda τ DebouncerId}

/-- A turn of a debouncer that minds the agenda, and leaves the timers of the others alone. -/
theorem Shared.put (shared : store.Shared) (known : id < store.registry.made.length)
    (minds : debouncer.Minds id agenda) (differs : store.agenda.DiffersAt id agenda) :
    (store.put id debouncer agenda).Shared := by
  constructor
  · intro place other found
    rw [Store.put, Registry.debouncer?_set _ known] at found
    by_cases same : place = id
    · rw [if_pos same] at found
      rw [same, ← Option.some.inj found]
      exact minds
    · rw [if_neg same] at found
      exact (shared.minds place other found).of_differsAt differs same
  · intro place timer pending
    simp only [Store.put, Registry.length_made_set] at pending ⊢
    by_cases same : timer.callback = id
    · exact same ▸ known
    · exact shared.owned place timer ((differs.others place timer same).mp pending)

/-- The clock and the keys do not matter. -/
theorem Shared.of_parts {other : Store τ} (shared : store.Shared)
    (timers : other.agenda.timers = store.agenda.timers)
    (made : other.registry.made = store.registry.made) : other.Shared := by
  have same (place : TimerId) : other.agenda.pending? place = store.agenda.pending? place := by
    rw [Agenda.pending?, Agenda.pending?, Agenda.get?, Agenda.get?, timers]
  constructor
  · intro id debouncer found
    rw [Registry.debouncer?, made] at found
    have minds := shared.minds id debouncer found
    exact ⟨minds.holds.of_timers timers, minds.stamped, minds.supplied⟩
  · intro place timer pending
    rw [made]
    exact shared.owned place timer (same place ▸ pending)

/-- A debouncer that is new holds no timer. -/
theorem Shared.insert (shared : store.Shared) (key : Value) (free : debouncer.timer = none) :
    Shared { store with registry := (store.registry.insert key debouncer).2 } := by
  constructor
  · intro id other found
    rw [Registry.debouncer?_insert] at found
    by_cases same : id = store.registry.made.length
    · rw [if_pos same] at found
      rw [← Option.some.inj found, same]
      apply Debouncer.Minds.of_timer_eq_none free
      intro place
      constructor
      · intro held
        cases held
      · rintro ⟨timer, pending, own⟩
        exact absurd (own ▸ shared.owned place timer pending) (Nat.lt_irrefl _)
    · rw [if_neg same] at found
      exact shared.minds id other found
  · intro place timer pending
    have below := shared.owned place timer pending
    simp only [Registry.insert, List.length_append, List.length_singleton]
    exact Nat.lt_succ_of_lt below

end Shared

end Store

variable [Instant τ]

/-! ## Resets -/

/-- A debouncer that has been reset at the given clock reading. -/
def renewed (now : τ) (debouncer : Member τ) : Member τ :=
  { debouncer with timer := none }.rewound now

theorem reset_debouncer (debouncer : Member τ) (agenda : Agenda τ DebouncerId) :
    (debouncer.reset agenda).debouncer = renewed agenda.now debouncer := by
  cases held : debouncer.timer <;> simp [Debouncer.reset, held, renewed]

@[simp] theorem renewed_timer (now : τ) (debouncer : Member τ) :
    (renewed now debouncer).timer = none := by
  simp [renewed]

theorem renewed_renewed (now : τ) (debouncer : Member τ) :
    renewed now (renewed now debouncer) = renewed now debouncer := by
  by_cases edge : (debouncer.settings.leading && !debouncer.settings.passthrough) = true
  · simp only [renewed, Debouncer.rewound, edge, if_true]
    rfl
  · simp only [renewed, Debouncer.rewound, edge, Bool.false_eq_true, if_false]

theorem free_of_renewed {debouncer : Member τ} {old? : Option (Member τ)} {now : τ}
    (renewed? : some debouncer = old?.map (renewed now)) : debouncer.timer = none := by
  rcases Option.map_eq_some_iff.mp renewed?.symm with ⟨old, _, rfl⟩
  exact renewed_timer now old

/-- What resetting several debouncers does. -/
structure Resets (ids : List DebouncerId) (before after : Store τ)
    (notices : List (Notice τ)) : Prop where
  shared : after.Shared
  now : after.agenda.now = before.agenda.now
  entries : after.registry.entries = before.registry.entries
  length : after.registry.made.length = before.registry.made.length
  reset : ∀ id ∈ ids, after.registry.debouncer? id =
    (before.registry.debouncer? id).map (renewed before.agenda.now)
  others : ∀ id, id ∉ ids → after.registry.debouncer? id = before.registry.debouncer? id
  timers : ∀ place timer, timer.callback ∉ ids →
    (after.agenda.pending? place = some timer ↔ before.agenda.pending? place = some timer)
  notices : ∀ notice ∈ notices, notice.debouncer ∈ ids

namespace Resets

variable {store before middle after : Store τ} {id : DebouncerId}
variable {ids rest : List DebouncerId} {notices later : List (Notice τ)}

theorem absent (shared : store.Shared) (missing : store.registry.debouncer? id = none) :
    Resets [id] store store [] where
  shared := shared
  now := rfl
  entries := rfl
  length := rfl
  reset other member := by
    rw [List.mem_singleton.mp member, missing]
    rfl
  others _ _ := rfl
  timers _ _ _ := .rfl
  notices := by simp

theorem single (shared : store.Shared) {debouncer : Member τ}
    (found : store.registry.debouncer? id = some debouncer) :
    Resets [id] store
      (store.put id (debouncer.reset store.agenda).debouncer
        (debouncer.reset store.agenda).scheduler)
      ((debouncer.reset store.agenda).events.map (Notice.mk id)) := by
  have known := Registry.known_of_debouncer? found
  rcases (shared.minds id debouncer found).reset with ⟨minds, differs⟩
  refine ⟨shared.put known minds differs, differs.now, rfl, ?_, ?_, ?_, ?_, ?_⟩
  · simp [Store.put]
  · intro other member
    rw [List.mem_singleton.mp member, found, Store.put, Registry.debouncer?_set _ known, if_pos rfl,
      reset_debouncer, Option.map_some]
  · intro other apart
    rw [Store.put, Registry.debouncer?_set _ known, if_neg (by simpa using apart)]
  · intro place timer apart
    exact differs.others place timer (by simpa using apart)
  · intro notice member
    rcases List.mem_map.mp member with ⟨event, _, rfl⟩
    exact List.mem_singleton_self id

theorem ids_eq (resets : Resets ids before after notices) :
    after.registry.ids = before.registry.ids := by
  rw [Registry.ids, resets.entries, Registry.ids]

theorem find?_eq (resets : Resets ids before after notices) (key : Value) :
    after.registry.find? key = before.registry.find? key := by
  rw [Registry.find?, resets.entries, Registry.find?]

theorem append (first : Resets ids before middle notices)
    (second : Resets rest middle after later) :
    Resets (ids ++ rest) before after (notices ++ later) where
  shared := second.shared
  now := second.now.trans first.now
  entries := second.entries.trans first.entries
  length := second.length.trans first.length
  reset id member := by
    by_cases last : id ∈ rest
    · rw [second.reset id last, first.now]
      by_cases early : id ∈ ids
      · rw [first.reset id early, Option.map_map]
        congr 1
        funext debouncer
        exact renewed_renewed _ debouncer
      · rw [first.others id early]
    · rw [second.others id last, first.reset id ((List.mem_append.mp member).resolve_right last)]
  others id apart := by
    rw [List.mem_append, not_or] at apart
    rw [second.others id apart.2, first.others id apart.1]
  timers place timer apart := by
    rw [List.mem_append, not_or] at apart
    rw [second.timers place timer apart.2, first.timers place timer apart.1]
  notices notice member := by
    rw [List.mem_append] at member ⊢
    exact member.imp (first.notices notice) (second.notices notice)

end Resets

theorem resets_resetAll {store : Store τ} (shared : store.Shared) (ids : List DebouncerId) :
    Resets ids store (resetAll store ids).1 (resetAll store ids).2 := by
  induction ids generalizing store with
  | nil =>
      exact ⟨shared, rfl, rfl, rfl, by simp, fun _ _ => rfl, fun _ _ _ => .rfl, by simp [resetAll]⟩
  | cons id rest ih =>
      cases found : store.registry.debouncer? id with
      | none =>
          simp only [resetAll, found]
          exact (Resets.absent shared found).append (ih shared)
      | some debouncer =>
          have first := Resets.single shared found
          simp only [resetAll, found]
          exact first.append (ih first.shared)

theorem not_isExecution_resetAll {notice : Notice τ} (store : Store τ) (ids : List DebouncerId)
    (member : notice ∈ (resetAll store ids).2) : ¬ notice.event.IsExecution := by
  induction ids generalizing store with
  | nil => cases member
  | cons id rest ih =>
      cases found : store.registry.debouncer? id with
      | none =>
          simp only [resetAll, found] at member
          exact ih store member
      | some debouncer =>
          simp only [resetAll, found, List.mem_append, List.mem_map] at member
          rcases member with ⟨event, told, rfl⟩ | later
          · exact Debouncer.reset_replies.events event told
          · exact ih _ later

/-! ## Sections of operations -/

section Take

variable (store : Store τ) (id : DebouncerId)
variable (turn : Turn τ (Agenda τ DebouncerId) (Work (Op τ) (Reply τ))) (frame : Tail τ → Frame τ)
variable (events : List (Event τ))

@[simp] theorem take_store :
    (take store id turn frame events).store = store.put id turn.debouncer turn.scheduler := by
  simp [take, Effect.mapEvents, Store.put]

theorem debouncer_of_mem_take {notice : Notice τ}
    (member : notice ∈ (take store id turn frame events).events) : notice.debouncer = id := by
  simp only [take, Effect.mapEvents, List.mem_map] at member
  rcases member with ⟨event, _, rfl⟩
  rfl

variable {store id turn frame events} {reply : Reply τ} {tail : Tail τ}

theorem take_of_reply (demand : turn.demand = .reply reply) :
    take store id turn frame events =
      { store := store.put id turn.debouncer turn.scheduler
        events := (events ++ turn.events).map (Notice.mk id)
        next := .finish reply } := by
  simp [take, Turn.effect, demand, Effect.mapEvents, Store.put]

theorem take_of_execute {work : Work (Op τ) (Reply τ)} (demand : turn.demand = .execute tail)
    (held : turn.debouncer.work = some work) :
    take store id turn frame events =
      { store := store.put id turn.debouncer turn.scheduler
        events := (events ++ turn.events).map (Notice.mk id) ++
          [⟨id, .ran work.id work.name turn.scheduler.now []⟩]
        next := .enter (frame tail) work {} } := by
  simp [take, Turn.effect, demand, held, Effect.mapEvents, Store.put]

end Take

/-- The store with a new debouncer under a key. -/
def Store.made (store : Store τ) (key : Value) (settings : Settings) : Store τ :=
  { store with
    registry := (store.registry.insert key
      (.new settings (.text key.displayText) store.agenda.now)).2 }

theorem Store.debouncer?_made (store : Store τ) (key : Value) (settings : Settings) :
    (store.made key settings).registry.debouncer? store.registry.made.length =
      some (.new settings (.text key.displayText) store.agenda.now) := by
  rw [made, Registry.debouncer?_insert, if_pos rfl]

theorem Store.find?_made {store : Store τ} {key used : Value}
    (absent : store.registry.find? key = none) (same : Key.same used key = true)
    (settings : Settings) :
    (store.made used settings).registry.find? key = some store.registry.made.length := by
  rw [made, Registry.find?_insert, absent, if_pos same, Option.none_or]

theorem Store.mem_ids_made (store : Store τ) (key : Value) (settings : Settings) :
    store.registry.made.length ∈ (store.made key settings).registry.ids := by
  simp [made, Registry.insert, Registry.ids]

/-- What a section of an operation does to a coherent store. -/
inductive Passage (store : Store τ) : Outcome τ → Prop where
  | answered {reply : Reply τ} : Passage store (answer store reply)
  /-- A debouncer that is registered serves a request. -/
  | served {id : DebouncerId} {debouncer : Member τ} {request : Request (Work (Op τ) (Reply τ))} :
      id ∈ store.registry.ids → store.registry.debouncer? id = some debouncer →
      Passage store
        (take store id (debouncer.serve store.agenda id request) (Frame.serving id) [])
  /-- A debouncer is made for a key that is not in use, and serves a call. -/
  | created {key : Value} {settings : Settings} {work? : Option (Work (Op τ) (Reply τ))} :
      store.registry.get? key = .ok none →
      Passage store
        (take (store.made key settings) store.registry.made.length
          ((Debouncer.new settings (.text key.displayText) store.agenda.now).serve store.agenda
            store.registry.made.length (.call work?))
          (Frame.serving store.registry.made.length) [.registered key.displayText])
  | discarded {key : Value} {id : DebouncerId} {after : Store τ} {notices : List (Notice τ)} :
      store.registry.get? key = .ok (some id) →
      Resets [id] { store with registry := store.registry.without key } after notices →
      Passage store (answer after (.ok (.flag true)) notices)
  | cleared {after : Store τ} {notices : List (Notice τ)} :
      Resets store.registry.ids { store with registry := store.registry.emptied } after notices →
      Passage store (answer after (.ok .nothing) notices)
  | recorded {id : DebouncerId} {debouncer : Member τ} {call : τ} {reply : Reply τ} :
      store.registry.debouncer? id = some debouncer →
      Passage store
        (answer (store.put id { debouncer with lastCall := some call } store.agenda) reply)
  | arrived {deadline : τ} {fired : Nat} :
      store.agenda.fireNext? deadline = none →
      Passage store
        (answer { store with agenda := store.agenda.arrive deadline } (.ok (.count fired)))
  | fired {deadline : τ} {count : Nat} {place : TimerId} {timer : Timer τ DebouncerId}
      {agenda : Agenda τ DebouncerId} {debouncer : Member τ} :
      store.agenda.fireNext? deadline = some (place, timer, agenda) →
      timer.callback ∈ store.registry.ids →
      store.registry.debouncer? timer.callback = some debouncer → debouncer.timer = some place →
      Passage store
        (take store timer.callback (debouncer.fire agenda place)
          (fun _ => .advancing deadline count) [.timerFired place timer.executionTime])

namespace Store.Coherent

variable {store : Store τ}

/-- The next timer that is due is the one that a registered debouncer holds. -/
theorem timer_of_fireNext? (coherent : store.Coherent) {deadline : τ} {place : TimerId}
    {timer : Timer τ DebouncerId} {agenda : Agenda τ DebouncerId}
    (found : store.agenda.fireNext? deadline = some (place, timer, agenda)) :
    timer.callback ∈ store.registry.ids ∧
      ∃ debouncer, store.registry.debouncer? timer.callback = some debouncer ∧
        debouncer.timer = some place := by
  rcases Agenda.fireNext?_eq_some found with ⟨stored, active, _, _⟩
  have pending : store.agenda.pending? place = some timer :=
    Agenda.pending?_eq_some.mpr ⟨stored, active⟩
  have known := coherent.owned place timer pending
  have made : store.registry.debouncer? timer.callback =
      some store.registry.made[timer.callback] := List.getElem?_eq_getElem known
  have held := ((coherent.minds _ _ made).holds place).mpr ⟨timer, pending, rfl⟩
  exact ⟨coherent.registered _ _ made (by simp [held]), _, made, held⟩

theorem passage_sweep (coherent : store.Coherent) (deadline : τ) (fired : Nat) :
    Passage store (sweep store deadline fired) := by
  rw [sweep]
  split
  · next absent => exact .arrived absent
  · next place timer agenda found =>
      rcases coherent.timer_of_fireNext? found with ⟨member, debouncer, made, held⟩
      simp only [made]
      exact .fired found member made held

theorem passage_serveKey (coherent : store.Coherent) (key : Value)
    (request : Request (Work (Op τ) (Reply τ))) (otherwise : Answer τ) :
    Passage store (serveKey store key request otherwise) := by
  rw [serveKey]
  split
  · exact .answered
  · exact .answered
  · next id found =>
      have member := Registry.mem_ids_of_find? (Registry.get?_eq_ok found).2
      rcases coherent.sound.debouncer? member with ⟨debouncer, made⟩
      rw [serve, made]
      exact .served member made

theorem passage_start (coherent : store.Coherent) (op : Op τ) :
    Passage store (start op store) := by
  cases op with
  | guarded guard key work? =>
      rw [start]
      cases Registry.chooseKey key work? with
      | error fault => exact .answered
      | ok key =>
          have obtained := Registry.obtained_getOrCreate store.registry key guard.interval
            guard.leading guard.idleTime store.agenda.now
          simp only [Except.bind]
          generalize store.registry.getOrCreate key guard.interval guard.leading guard.idleTime
            store.agenda.now = outcome at obtained
          cases obtained with
          | refused _ => exact .answered
          | invalid _ _ => exact .answered
          | found looked =>
              have member := Registry.mem_ids_of_find? (Registry.get?_eq_ok looked).2
              rcases coherent.sound.debouncer? member with ⟨debouncer, made⟩
              simp only [serve, made]
              exact .served member made
          | created looked built =>
              simp only [serve, Registry.debouncer?_insert, if_true]
              exact .created looked
  | reset key => exact coherent.passage_serveKey key .reset _
  | flush key => exact coherent.passage_serveKey key .flush _
  | discard key =>
      simp only [start]
      have removal := Registry.removal_remove store.registry key
      generalize store.registry.remove key = removed at removal
      cases removal with
      | refused _ | absent _ => exact .answered
      | taken found =>
          have shared : Store.Shared { store with registry := store.registry.without key } :=
            coherent.toShared.of_parts rfl rfl
          exact .discarded found (resets_resetAll shared _)
  | clear =>
      have shared : Store.Shared { store with registry := store.registry.emptied } :=
        coherent.toShared.of_parts rfl rfl
      exact .cleared (resets_resetAll shared _)
  | call key work? => exact coherent.passage_serveKey key (.call work?) _
  | advance delay =>
      cases delay with
      | error fault => exact .answered
      | ok delay => exact coherent.passage_sweep _ 0
  | contains | workKey | get | now => exact .answered

theorem passage_resume (coherent : store.Coherent) (frame : Frame τ) (reply : Reply τ) :
    Passage store (resume frame reply store) := by
  cases frame with
  | serving id tail =>
      rw [resume]
      cases found : store.registry.debouncer? id with
      | none => exact .answered
      | some debouncer =>
          have kept : store.registry.set id debouncer = store.registry :=
            Registry.set_debouncer? found
          cases tail with
          | passOn => simpa [Debouncer.finish, kept] using Passage.answered
          | record call =>
              cases reply with
              | error fault => simpa [Debouncer.finish, kept] using Passage.answered
              | ok value => exact .recorded found
          | flushed =>
              cases reply with
              | error fault => simpa [Debouncer.finish, kept] using Passage.answered
              | ok value => simpa [Debouncer.finish, kept] using Passage.answered
  | advancing deadline fired =>
      cases reply with
      | error fault => exact .answered
      | ok value => exact coherent.passage_sweep deadline fired

end Store.Coherent

namespace Store.Coherent

variable {store after : Store τ} {id : DebouncerId} {debouncer : Member τ}
variable {agenda : Agenda τ DebouncerId} {notices : List (Notice τ)} {key : Value}

omit [Instant τ] in
theorem put (coherent : store.Coherent) (known : id < store.registry.made.length)
    (minds : debouncer.Minds id agenda) (differs : store.agenda.DiffersAt id agenda)
    (registered : debouncer.timer.isSome → id ∈ store.registry.ids) :
    (store.put id debouncer agenda).Coherent := by
  refine ⟨coherent.toShared.put known minds differs, coherent.sound.set id debouncer, ?_⟩
  intro place other found held
  rw [Store.put, Registry.debouncer?_set _ known] at found
  by_cases same : place = id
  · rw [if_pos same] at found
    exact same ▸ registered (Option.some.inj found ▸ held)
  · rw [if_neg same] at found
    exact coherent.registered place other found held

omit [Instant τ] in
/-- The clock does not matter. -/
theorem of_timers {agenda : Agenda τ DebouncerId} (coherent : store.Coherent)
    (timers : agenda.timers = store.agenda.timers) :
    Store.Coherent { store with agenda := agenda } :=
  ⟨coherent.toShared.of_parts timers rfl, coherent.sound, coherent.registered⟩

theorem made (coherent : store.Coherent) (fresh : store.registry.find? key = none)
    (settings : Settings) : (store.made key settings).Coherent := by
  have free : (Debouncer.new settings (.text key.displayText) store.agenda.now : Member τ).timer =
      none := by simp [Debouncer.new]
  refine ⟨coherent.toShared.insert key free, coherent.sound.insert fresh _, ?_⟩
  intro id debouncer found held
  rw [Store.made, Registry.debouncer?_insert] at found
  by_cases last : id = store.registry.made.length
  · rw [if_pos last] at found
    rw [← Option.some.inj found, free] at held
    cases held
  · rw [if_neg last] at found
    have before := coherent.registered id debouncer found held
    simp only [Registry.ids, Store.made, Registry.insert, List.map_append, List.mem_append]
    exact .inl before

/-- A registered debouncer serves a request. -/
theorem served (coherent : store.Coherent) (member : id ∈ store.registry.ids)
    (found : store.registry.debouncer? id = some debouncer)
    (request : Request (Work (Op τ) (Reply τ))) :
    (store.put id (debouncer.serve store.agenda id request).debouncer
      (debouncer.serve store.agenda id request).scheduler).Coherent := by
  rcases (coherent.minds id debouncer found).served
    (Debouncer.served_serve debouncer store.agenda id request) with ⟨minds, differs⟩
  exact coherent.put (coherent.sound.known id member) minds differs fun _ => member

/-- Firing the timer of a debouncer. -/
theorem fire (coherent : store.Coherent) {deadline : τ} {place : TimerId}
    {timer : Timer τ DebouncerId}
    (next : store.agenda.fireNext? deadline = some (place, timer, agenda))
    (found : store.registry.debouncer? timer.callback = some debouncer)
    (held : debouncer.timer = some place) :
    (store.put timer.callback (debouncer.fire agenda place).debouncer agenda).Coherent := by
  rcases Agenda.fireNext?_eq_some next with ⟨_, _, _, rfl⟩
  have moved : Store.Coherent { store with
      agenda := { store.agenda with
        now := Instant.later store.agenda.now timer.executionTime } } := coherent.of_timers rfl
  have holds := held ▸ (moved.minds _ _ found).holds
  have free : (debouncer.fire store.agenda place).debouncer.timer = none :=
    Debouncer.fire_timer _ held
  refine moved.put (Registry.known_of_debouncer? found) ?_
    (holds.differsAt_of_ended rfl (store.agenda.pending?_claim place)) ?_
  · exact .of_timer_eq_none free (holds.of_ended (store.agenda.pending?_claim place))
  · intro still
    have none : (debouncer.fire store.agenda place).debouncer.timer.isSome := still
    rw [free] at none
    cases none

theorem discard (coherent : store.Coherent) (found : store.registry.get? key = .ok (some id))
    (resets : Resets [id] { store with registry := store.registry.without key } after notices) :
    after.Coherent := by
  have holder := (Registry.get?_eq_ok found).2
  refine ⟨resets.shared,
    (coherent.sound.without key).of_parts resets.entries resets.length, ?_⟩
  intro place debouncer stored held
  rw [resets.ids_eq, coherent.sound.mem_ids_without holder]
  by_cases same : place ∈ [id]
  · have free := free_of_renewed (stored ▸ resets.reset place same)
    simp [free] at held
  · rw [resets.others place same] at stored
    exact ⟨coherent.registered place debouncer stored held, by simpa using same⟩

theorem clear (coherent : store.Coherent)
    (resets : Resets store.registry.ids { store with registry := store.registry.emptied } after
      notices) : after.Coherent := by
  refine ⟨resets.shared,
    (Registry.Sound.emptied store.registry).of_parts resets.entries resets.length, ?_⟩
  intro place debouncer stored held
  by_cases registered : place ∈ store.registry.ids
  · have free := free_of_renewed (stored ▸ resets.reset place registered)
    simp [free] at held
  · rw [resets.others place registered] at stored
    exact absurd (coherent.registered place debouncer stored held) registered

end Store.Coherent

/-- Every section of an operation keeps the store coherent. -/
theorem Passage.coherent {store : Store τ} {outcome : Outcome τ} (passage : Passage store outcome)
    (coherent : store.Coherent) : outcome.store.Coherent := by
  cases passage with
  | answered => exact coherent
  | served member found => simpa using coherent.served member found _
  | @created key settings work? looked =>
      have made := coherent.made (Registry.get?_eq_ok looked).2 settings
      rw [take_store]
      exact made.served (store.mem_ids_made key settings) (store.debouncer?_made key settings) _
  | discarded found resets => exact coherent.discard found resets
  | cleared resets => exact coherent.clear resets
  | recorded found =>
      exact coherent.put (Registry.known_of_debouncer? found) ((coherent.minds _ _ found).record _)
        (.refl _) fun held => coherent.registered _ _ found held
  | arrived _ => exact coherent.of_timers rfl
  | fired next _ found held => simpa using coherent.fire next found held

omit [Instant τ] in
theorem Store.Coherent.new (clock : τ) : (Store.new clock : Store τ).Coherent where
  minds id debouncer found := by
    cases found
  owned place timer pending := by
    cases pending
  sound := Registry.Sound.emptied {}
  registered id debouncer found := by
    cases found

/-- In every state of a run the store is coherent. -/
theorem coherent_of_reaches {clock : τ} {script : Script (Op τ) (Reply τ)} {state : State τ}
    (reaches : machine.Reaches (State.initial clock script) state) : state.store.Coherent :=
  reaches.keeps_store Store.Coherent
    (fun op _ coherent => (coherent.passage_start op).coherent coherent)
    (fun frame reply _ coherent => (coherent.passage_resume frame reply).coherent coherent)
    (Store.Coherent.new clock)

end RegistrySession

end Debounce
