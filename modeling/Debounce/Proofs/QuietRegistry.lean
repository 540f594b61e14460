import Debounce.Proofs.Endings
import Debounce.Proofs.Mirror
import Debounce.Proofs.Registered
import Debounce.Proofs.Ties

/-!
# Registries with quiet works

Where the works of a registry are quiet, nothing happens inside an operation but what the operation
itself does: a request is served by one debouncer, and an advance fires the timers that are due one
after the other. This module follows one key through this. What an advance does to the debouncer
under the key does not depend on the timers that fire before and after its own.
-/

namespace Debounce

namespace Debouncer.Minds

variable {τ κ ω : Type} {debouncer : Debouncer τ ω} {agenda after : Agenda τ κ} {callback : κ}

/-- As long as its own timers are left alone, a debouncer's timer is set for the same time. -/
theorem time?_eq (minds : debouncer.Minds callback agenda)
    (kept : ∀ place timer, timer.callback = callback →
      (after.pending? place = some timer ↔ agenda.pending? place = some timer)) :
    debouncer.time? after = debouncer.time? agenda := by
  rw [time?, time?]
  cases held : debouncer.timer with
  | none => rfl
  | some place =>
      rcases (minds.holds place).mp held with ⟨timer, pending, own⟩
      rw [Option.bind_some, Option.bind_some, pending, (kept place timer own).mpr pending]

theorem time?_of_differsAt {other : κ} (minds : debouncer.Minds callback agenda)
    (differs : agenda.DiffersAt other after) (apart : callback ≠ other) :
    debouncer.time? after = debouncer.time? agenda := by
  apply minds.time?_eq
  rintro place timer rfl
  exact differs.others place timer apart

end Debouncer.Minds

/-! ## Works under keys -/

/-- What the work returns depends on how often works have begun to run only as far as these works
are concerned. -/
def QuietWork.GoesBy {τ : Type} (counted : Set WorkId) (work : QuietWork τ) : Prop :=
  ∀ runs other clock, (∀ id ∈ counted, runs id = other id) →
    work.returned runs clock = work.returned other clock

theorem Runs.count_congr {runs other : Runs} {place : WorkId} (same : runs place = other place)
    (work : WorkId) : runs.count work place = other.count work place := by
  rw [count, count, same]

namespace RegistrySession

variable {τ : Type}

instance : Clocked (Op τ) := ⟨.now⟩

/-- The work is quiet. Under the key that is observed it goes by the counts of some works, and under
other keys it is none of these. -/
def Fits (counted : Set WorkId) (observed : Prop) (work : Work (Op τ) (Reply τ)) : Prop :=
  ∃ quiet : QuietWork τ, work = quiet.returning ∧ (observed → quiet.GoesBy counted) ∧
    (¬ observed → quiet.id ∉ counted)

theorem Fits.congr {counted : Set WorkId} {observed other : Prop} {work : Work (Op τ) (Reply τ)}
    (fits : Fits counted observed work) (same : other ↔ observed) : Fits counted other work :=
  propext same ▸ fits

variable [Instant τ]

/-- Between operations: the works that are held fit the key that is observed, and timers are set for
sums. -/
structure Store.Quiet (counted : Set WorkId) (key : Value) (store : Store τ) : Prop
    extends store.Coherent where
  summed : store.agenda.AllPending Instant.Summed
  fits : ∀ id ∈ store.registry.ids, ∀ debouncer work,
    store.registry.debouncer? id = some debouncer → debouncer.work = some work →
    Fits counted (store.registry.find? key = some id) work

/-- A work that has begun to run, and what the clock showed. -/
structure Execution (τ : Type) where
  work : WorkId
  name : String
  now : τ

/-- The execution of which a debouncer tells. -/
def execution? (id? : Option DebouncerId) (notice : Notice τ) : Option (Execution τ) :=
  match notice.event with
  | .ran work name now _ => if id? = some notice.debouncer then some ⟨work, name, now⟩ else none
  | _ => none

/-- The works that a debouncer has run. -/
def executions (id? : Option DebouncerId) (notices : List (Notice τ)) : List (Execution τ) :=
  notices.filterMap (execution? id?)

section Executions

variable {id? : Option DebouncerId} {id : DebouncerId}

omit [Instant τ] in
theorem executions_append (notices more : List (Notice τ)) :
    executions id? (notices ++ more) = executions id? notices ++ executions id? more :=
  List.filterMap_append

omit [Instant τ] in
/-- What others tell is not heard. -/
theorem executions_of_others {notices : List (Notice τ)}
    (others : ∀ notice ∈ notices, id? ≠ some notice.debouncer) : executions id? notices = [] := by
  rw [executions, List.filterMap_eq_nil_iff]
  intro notice member
  rw [execution?]
  split
  · exact if_neg (others notice member)
  · rfl

omit [Instant τ] in
theorem executions_eq_nil {notices : List (Notice τ)}
    (silent : ∀ notice ∈ notices, notice.event.work? = none) : executions id? notices = [] := by
  rw [executions, List.filterMap_eq_nil_iff]
  intro notice member
  rw [execution?]
  split
  · next told =>
      have unheard := silent notice member
      rw [told] at unheard
      cases unheard
  · rfl

omit [Instant τ] in
theorem executions_of_silent {events : List (Event τ)}
    (silent : ∀ event ∈ events, event.work? = none) :
    executions id? (events.map (Notice.mk id)) = [] :=
  executions_eq_nil (by simpa using silent)

end Executions

/-! ## Turns -/

/-- What a turn of a debouncer comes to if its work is quiet: the reply, the debouncer and the
counts that it leaves, and the works that have run. -/
inductive Comes (turn : Turn τ (Agenda τ DebouncerId) (Work (Op τ) (Reply τ))) (runs : Runs) :
    Reply τ → Member τ → Runs → List (Execution τ) → Prop where
  | replied {reply : Reply τ} :
      turn.demand = .reply reply → Comes turn runs reply turn.debouncer runs []
  | executed {tail : Tail τ} {quiet : QuietWork τ} {value : Answer τ} :
      turn.demand = .execute tail → turn.debouncer.work = some quiet.returning →
      quiet.returned runs turn.scheduler.now = value →
      Comes turn runs (turn.debouncer.finish tail (.ok value)).2
        (turn.debouncer.finish tail (.ok value)).1 (runs.count quiet.id)
        [⟨quiet.id, quiet.name, turn.scheduler.now⟩]

section Comes

variable {debouncer left : Member τ} {agenda : Agenda τ DebouncerId} {id : DebouncerId}
variable {request : Request (Work (Op τ) (Reply τ))} {counted : Set WorkId} {observed : Prop}
variable {turn other : Turn τ (Agenda τ DebouncerId) (Work (Op τ) (Reply τ))}
variable {runs counts : Runs} {reply : Reply τ} {ran : List (Execution τ)}

omit [Instant τ] in
theorem Comes.left_eq (comes : Comes turn runs reply left counts ran) :
    ∃ call?, left = { turn.debouncer with lastCall := call? } := by
  cases comes with
  | replied _ => exact ⟨_, rfl⟩
  | executed _ _ _ => exact ⟨_, Debouncer.finish_eq _ _ _⟩

/-- Serving a request comes to something. -/
theorem exists_comes (form : debouncer.Served agenda id request turn)
    (minds : debouncer.Minds id agenda)
    (fits : ∀ work, turn.debouncer.work = some work → Fits counted observed work) (runs : Runs) :
    ∃ reply left counts ran, Comes turn runs reply left counts ran ∧
      (¬ observed → ∀ work ∈ counted, counts work = runs work) := by
  rcases form.executes_or_replies with ⟨cause, executes⟩ | replies
  · rcases executes.demand with ⟨tail, demand⟩
    obtain ⟨work, held⟩ := form.work_of_executes executes fun place timed _ =>
      minds.supplied (by simp [timed])
    rcases fits work held with ⟨quiet, rfl, _, uncounted⟩
    refine ⟨_, _, _, _, .executed demand held rfl, ?_⟩
    intro unobserved work counted
    apply if_neg
    rintro rfl
    exact uncounted unobserved counted
  · rcases replies.demand with ⟨reply, demand⟩
    exact ⟨_, _, _, _, .replied demand, fun _ _ _ => rfl⟩

/-- Turns that mirror each other come to the same. -/
theorem exists_comes_of_mirrors (form : debouncer.Served agenda id request turn)
    (minds : debouncer.Minds id agenda)
    (fits : ∀ work, turn.debouncer.work = some work → Fits counted True work)
    (mirrors : turn.Mirrors other) (clocks : other.scheduler.now = turn.scheduler.now)
    {runs alike : Runs} (agree : ∀ work ∈ counted, alike work = runs work) :
    ∃ reply ran left counts opposite recounts, Comes turn runs reply left counts ran ∧
      Comes other alike reply opposite recounts ran ∧
      left.Mirrors opposite turn.scheduler other.scheduler ∧
      ∀ work ∈ counted, recounts work = counts work := by
  rcases form.executes_or_replies with ⟨cause, executes⟩ | replies
  · rcases executes.demand with ⟨tail, demand⟩
    obtain ⟨work, held⟩ := form.work_of_executes executes fun place timed _ =>
      minds.supplied (by simp [timed])
    rcases fits work held with ⟨quiet, rfl, goesBy, _⟩
    have same : other.debouncer.work = turn.debouncer.work := by rw [mirrors.left.fields]
    have returned : quiet.returned alike other.scheduler.now =
        quiet.returned runs turn.scheduler.now := by
      rw [clocks]
      exact goesBy trivial _ _ _ agree
    rcases mirrors.left.finish tail (.ok (quiet.returned runs turn.scheduler.now)) with
      ⟨left, replies⟩
    have comes := Comes.executed (mirrors.demand.trans demand) (same.trans held) returned
    rw [replies, clocks] at comes
    exact ⟨_, _, _, _, _, _, .executed demand held rfl, comes, left,
      fun work counted => Runs.count_congr (agree work counted) _⟩
  · rcases replies.demand with ⟨reply, demand⟩
    exact ⟨_, _, _, _, _, _, .replied demand, .replied (mirrors.demand.trans demand), mirrors.left,
      agree⟩

end Comes

/-- From a section with this effect on, an operation comes to the ending if its works are quiet. -/
abbrev Ends (outcome : Outcome τ) (runs : Runs) (ending : Ending τ (Store τ) (Notice τ)) : Prop :=
  machine.Ends (fun store => store.agenda.now) outcome runs ending

theorem shows_clock : machine.Shows fun store : Store τ => store.agenda.now := by
  intro store
  rfl

/-- When a quiet work has run the operation goes on with what it returns. -/
theorem ends_enter {outcome : Outcome τ} {runs : Runs} {frame : Frame τ} {quiet : QuietWork τ}
    {ending : Ending τ (Store τ) (Notice τ)}
    (enters : outcome.next = .enter frame quiet.returning {})
    (rest : Ends (resume frame (.ok (quiet.returned runs outcome.store.agenda.now)) outcome.store)
      (runs.count quiet.id) ending) :
    Ends outcome runs { ending with events := outcome.events ++ ending.events } :=
  .enter enters rest

section Take

variable {store : Store τ} {id : DebouncerId} {events : List (Event τ)} {frame : Tail τ → Frame τ}
variable {turn : Turn τ (Agenda τ DebouncerId) (Work (Op τ) (Reply τ))} {runs counts : Runs}
variable {reply : Reply τ} {debouncer : Member τ} {ran : List (Execution τ)} {tail : Tail τ}

/-- When the work has replied the debouncer ends its turn. -/
theorem resume_put (known : id < store.registry.made.length) (agenda : Agenda τ DebouncerId) :
    resume (.serving id tail) reply (store.put id debouncer agenda) =
      answer (store.put id (debouncer.finish tail reply).1 agenda)
        (debouncer.finish tail reply).2 := by
  have found : (store.put id debouncer agenda).registry.debouncer? id = some debouncer := by
    rw [Store.put, Registry.debouncer?_set _ known, if_pos rfl]
  rw [resume, found]
  simp [Store.put, Registry.set]

/-- An operation ends with the turn of a debouncer that serves it. -/
theorem Comes.ends (comes : Comes turn runs reply debouncer counts ran)
    (known : id < store.registry.made.length)
    (silent : ∀ event ∈ events ++ turn.events, event.work? = none) :
    ∃ notices, Ends (take store id turn (.serving id) events) runs
        { reply := reply, store := store.put id debouncer turn.scheduler, runs := counts
          events := notices } ∧
      (∀ notice ∈ notices, notice.debouncer = id) ∧ executions (some id) notices = ran := by
  refine ⟨(take store id turn (.serving id) events).events, ?_,
    fun _ => debouncer_of_mem_take store id turn _ events, ?_⟩
  · cases comes with
    | replied demand =>
        rw [take_of_reply demand]
        exact .finish rfl
    | @executed tail quiet value demand held returned =>
        let outcome := take store id turn (.serving id) events
        have enters : outcome.next = .enter (.serving id tail) quiet.returning {} := by
          simp only [outcome, take_of_execute demand held]
        have rest : Ends (resume (.serving id tail)
            (.ok (quiet.returned runs outcome.store.agenda.now)) outcome.store)
            (runs.count quiet.id)
            { reply := (turn.debouncer.finish tail (.ok value)).2
              store := store.put id (turn.debouncer.finish tail (.ok value)).1 turn.scheduler
              runs := runs.count quiet.id } := by
          have clock : (store.put id turn.debouncer turn.scheduler).agenda.now =
              turn.scheduler.now := rfl
          simp only [outcome, take_store]
          rw [clock, returned, resume_put known]
          exact .finish rfl
        have ends := ends_enter enters rest
        rwa [List.append_nil] at ends
  · cases comes with
    | replied demand =>
        rw [take_of_reply demand]
        exact executions_of_silent silent
    | executed demand held _ =>
        rw [take_of_execute demand held, executions_append, executions_of_silent silent]
        simp [executions, execution?, Work.returning]

end Take

/-! ## What operations keep -/

namespace Store.Quiet

variable {counted : Set WorkId} {key : Value} {store after : Store τ} {id : DebouncerId}
variable {debouncer : Member τ} {agenda : Agenda τ DebouncerId}

theorem put (quiet : store.Quiet counted key) (member : id ∈ store.registry.ids)
    (coherent : (store.put id debouncer agenda).Coherent)
    (summed : agenda.AllPending Instant.Summed)
    (fits : ∀ work, debouncer.work = some work →
      Fits counted (store.registry.find? key = some id) work) :
    (store.put id debouncer agenda).Quiet counted key := by
  have known := quiet.sound.known id member
  refine ⟨coherent, summed, ?_⟩
  intro place placed other work found held
  rw [Store.put, Registry.debouncer?_set _ known] at found
  by_cases same : place = id
  · rw [if_pos same] at found
    subst same
    exact fits work (Option.some.inj found ▸ held)
  · rw [if_neg same] at found
    exact quiet.fits place placed other work found held

/-- The clock does not matter. -/
theorem of_timers {agenda : Agenda τ DebouncerId} (quiet : store.Quiet counted key)
    (timers : agenda.timers = store.agenda.timers) :
    Store.Quiet counted key { store with agenda := agenda } :=
  ⟨quiet.toCoherent.of_timers timers, quiet.summed.of_timers timers, quiet.fits⟩

/-- What a registered debouncer has to run after it has served a request. -/
theorem fits_served (quiet : store.Quiet counted key) (member : id ∈ store.registry.ids)
    (found : store.registry.debouncer? id = some debouncer)
    {request : Request (Work (Op τ) (Reply τ))}
    (supplies : ∀ work, request.supplied? = some work →
      Fits counted (store.registry.find? key = some id) work) :
    ∀ work, (debouncer.serve store.agenda id request).debouncer.work = some work →
      Fits counted (store.registry.find? key = some id) work := by
  intro work held
  rw [(Debouncer.served_serve debouncer store.agenda id request).work] at held
  rcases Option.or_eq_some_iff.mp held with supplied | ⟨_, before⟩
  · exact supplies work supplied
  · exact quiet.fits id member debouncer work found before

theorem served (quiet : store.Quiet counted key) (member : id ∈ store.registry.ids)
    (found : store.registry.debouncer? id = some debouncer)
    {request : Request (Work (Op τ) (Reply τ))}
    (supplies : ∀ work, request.supplied? = some work →
      Fits counted (store.registry.find? key = some id) work) (call? : Option τ) :
    (store.put id
      { (debouncer.serve store.agenda id request).debouncer with lastCall := call? }
      (debouncer.serve store.agenda id request).scheduler).Quiet counted key := by
  have form := Debouncer.served_serve debouncer store.agenda id request
  rcases (quiet.minds id debouncer found).served form with ⟨minds, differs⟩
  have coherent := quiet.toCoherent.put (quiet.sound.known id member) (minds.record call?) differs
    fun _ => member
  exact quiet.put member coherent (form.summed quiet.summed)
    (quiet.fits_served member found supplies)

/-- An operation in which a registered debouncer serves a request ends with the turn. -/
theorem ends_take {request : Request (Work (Op τ) (Reply τ))} {events : List (Event τ)}
    {runs counts : Runs} {reply : Reply τ} {left : Member τ} {ran : List (Execution τ)}
    (quiet : store.Quiet counted key) (member : id ∈ store.registry.ids)
    (found : store.registry.debouncer? id = some debouncer)
    (supplies : ∀ work, request.supplied? = some work →
      Fits counted (store.registry.find? key = some id) work)
    (silent : ∀ event ∈ events, event.work? = none)
    (comes : Comes (debouncer.serve store.agenda id request) runs reply left counts ran) :
    ∃ notices,
      Ends (take store id (debouncer.serve store.agenda id request) (.serving id) events) runs
        { reply := reply
          store := store.put id left (debouncer.serve store.agenda id request).scheduler
          runs := counts, events := notices } ∧
      (∀ notice ∈ notices, notice.debouncer = id) ∧ executions (some id) notices = ran ∧
      (store.put id left (debouncer.serve store.agenda id request).scheduler).Quiet counted
        key := by
  have form := Debouncer.served_serve debouncer store.agenda id request
  have unheard (event) (told : event ∈
      events ++ (debouncer.serve store.agenda id request).events) : event.work? = none :=
    (List.mem_append.mp told).elim (silent event) form.work?_eq_none
  rcases comes.ends (quiet.sound.known id member) unheard with ⟨notices, ends, own, executes⟩
  rcases comes.left_eq with ⟨call?, rfl⟩
  exact ⟨notices, ends, own, executes, quiet.served member found supplies call?⟩

/-- Registering a new debouncer. -/
theorem made {used : Value} (quiet : store.Quiet counted key)
    (fresh : store.registry.find? used = none) (settings : Settings) :
    (store.made used settings).Quiet counted key := by
  refine ⟨quiet.toCoherent.made fresh settings, quiet.summed, ?_⟩
  intro id member debouncer work found held
  rw [Store.made, Registry.debouncer?_insert] at found
  by_cases last : id = store.registry.made.length
  · rw [if_pos last] at found
    rw [← Option.some.inj found] at held
    simp [Debouncer.new] at held
  · rw [if_neg last] at found
    have before : id ∈ store.registry.ids := by
      simpa [Store.made, Registry.ids, Registry.insert, last] using member
    refine (quiet.fits id before debouncer work found held).congr ?_
    rw [Store.made, Registry.find?_insert]
    cases store.registry.find? key with
    | some other => rfl
    | none => simp [Ne.symm last]

/-- Taking debouncers out of use. -/
protected theorem resets {ids : List DebouncerId} {before : Store τ} {notices : List (Notice τ)}
    (quiet : store.Quiet counted key) (resets : Resets ids before after notices)
    (agenda : before.agenda = store.agenda) (made : before.registry.made = store.registry.made)
    (coherent : after.Coherent)
    (kept : ∀ id ∈ after.registry.ids, id ∈ store.registry.ids ∧ id ∉ ids ∧
      (after.registry.find? key = some id ↔ store.registry.find? key = some id)) :
    after.Quiet counted key := by
  refine ⟨coherent, ?_, ?_⟩
  · intro place timer stored active
    have pending := Agenda.pending?_eq_some.mpr ⟨stored, active⟩
    -- A timer of a debouncer that has been reset is not pending any more.
    have others : timer.callback ∉ ids := by
      intro member
      have known := coherent.owned place timer pending
      have found : after.registry.debouncer? timer.callback =
          some after.registry.made[timer.callback] := List.getElem?_eq_getElem known
      have free := free_of_renewed (found ▸ resets.reset _ member)
      have held := ((coherent.minds _ _ found).holds place).mpr ⟨timer, pending, rfl⟩
      rw [free] at held
      cases held
    have before := (resets.timers place timer others).mp pending
    rw [agenda] at before
    rcases Agenda.pending?_eq_some.mp before with ⟨stored, active⟩
    exact quiet.summed place timer stored active
  · intro id member debouncer work found held
    rcases kept id member with ⟨before, others, same⟩
    rw [resets.others id others, Registry.debouncer?, made] at found
    exact (quiet.fits id before debouncer work found held).congr same

/-- Taking a key out of use. -/
theorem discarded {used : Value} {notices : List (Notice τ)} (quiet : store.Quiet counted key)
    (found : store.registry.get? used = .ok (some id))
    (resets : Resets [id] { store with registry := store.registry.without used } after notices) :
    after.Quiet counted key := by
  have holder := (Registry.get?_eq_ok found).2
  refine quiet.resets resets rfl rfl (quiet.toCoherent.discard found resets) ?_
  intro place member
  rw [resets.ids_eq, quiet.sound.mem_ids_without holder] at member
  refine ⟨member.1, by simpa using member.2, ?_⟩
  rw [resets.find?_eq, Registry.find?_without]
  cases same : Key.same used key with
  | false => rfl
  | true =>
      rw [← Registry.find?_congr same, holder]
      simp [Ne.symm member.2]

/-- Taking all keys out of use. -/
theorem cleared {notices : List (Notice τ)} (quiet : store.Quiet counted key)
    (resets : Resets store.registry.ids { store with registry := store.registry.emptied } after
      notices) : after.Quiet counted key := by
  refine quiet.resets resets rfl rfl (quiet.toCoherent.clear resets) ?_
  intro id member
  rw [resets.ids_eq] at member
  cases member

theorem new (clock : τ) : (Store.new clock : Store τ).Quiet counted key where
  toCoherent := .new clock
  summed id timer stored _ := by cases stored
  fits id member := by cases member

end Store.Quiet

end RegistrySession

end Debounce
