import Debounce.Proofs.Quiet
import Debounce.Proofs.Session
import Debounce.Session.Background
import Debounce.Session.Bench

/-!
# Sessions that host a debouncer

Sessions differ in their schedulers and in what else can be done in them, but all of them serve a
request alike: the debouncer takes a turn on the scheduler, the work that it asks for runs, and the
debouncer ends the operation. What holds of requests alone is proved once, for every session that
hosts a debouncer, whatever the scheduler. What else can be done in a session may come between the
requests where it spares the debouncer and starts no timer.
-/

namespace Debounce

variable {τ κ : Type}

namespace Agenda

variable {agenda : Agenda τ κ}

theorem holds_none_of_nil (empty : agenda.timers = []) : agenda.Holds none :=
  (holds_nil agenda.now).of_timers empty

theorem update_of_nil (empty : agenda.timers = []) (id : TimerId)
    (change : Timer τ κ → Bool × Timer τ κ) : agenda.update id change = (false, agenda) := by
  simp [update, empty]

end Agenda

section Vacant

/-- No timer was ever set on the scheduler. -/
def Scheduler.Vacant {σ : Type} [Scheduler σ τ κ] (scheduler : σ) : Prop :=
  ∀ id, Scheduler.status? scheduler id = none

variable [Instant τ]

theorem Agenda.vacant_iff {agenda : Agenda τ κ} :
    Scheduler.Vacant agenda ↔ agenda.timers = [] := by
  constructor
  · intro vacant
    have first : agenda.timers[0]? = none := Option.map_eq_none_iff.mp (vacant 0)
    exact List.eq_nil_of_length_eq_zero (Nat.le_zero.mp (List.getElem?_eq_none_iff.mp first))
  · intro empty id
    simp [Scheduler.status?, get?, empty]

theorem Bench.vacant_iff {bench : Bench τ κ} :
    Scheduler.Vacant bench ↔ bench.agenda.timers = [] := by
  have same : Scheduler.Vacant bench ↔ Scheduler.Vacant bench.agenda := Iff.rfl
  rw [same, Agenda.vacant_iff]

end Vacant

variable [Instant τ]

section Hosting

variable {Op Store Frame σ : Type} [Requesting Op (Reply τ)] [Scheduler σ τ κ]

/-- How the operations of a machine host a debouncer on a scheduler. -/
structure Machine.Hosting (machine : Machine Op (Reply τ) Store Frame (Event τ)) (σ : Type)
    {κ : Type} [Scheduler σ τ κ] where
  /-- The debouncer and its scheduler, if the store has them. -/
  view : Store → Option (Debouncer τ (Work Op (Reply τ)) × σ)
  /-- The store with another debouncer and scheduler. -/
  put : Store → Debouncer τ (Work Op (Reply τ)) → σ → Store
  /-- The callback of a timer that is set now. -/
  callback : Store → κ
  /-- The context that works see. -/
  context : Store → Fields
  /-- Where a request goes on after the work has replied. -/
  frame : Tail τ → Frame
  view_put : ∀ store debouncer scheduler,
    view (put store debouncer scheduler) = some (debouncer, scheduler)
  put_view : ∀ store debouncer scheduler, view store = some (debouncer, scheduler) →
    put store debouncer scheduler = store
  start : ∀ op request store debouncer scheduler, Requesting.request? op = some request →
    view store = some (debouncer, scheduler) →
    machine.start op store =
      (debouncer.serve scheduler (callback store) request).effect (context store) frame (put store)
  resume : ∀ tail reply store,
    machine.resume (frame tail) reply store =
      match view store with
      | none => { store := store, events := [], next := .finish reply }
      | some (debouncer, scheduler) =>
          { store := put store (debouncer.finish tail reply).1 scheduler
            events := []
            next := .finish (debouncer.finish tail reply).2 }

namespace Machine.Hosting

variable {machine : Machine Op (Reply τ) Store Frame (Event τ)}

/-- If there is nothing left to do, the operation ends with the reply of the work. -/
theorem resume_passOn (host : machine.Hosting σ) (reply : Reply τ) (store : Store) :
    machine.resume (host.frame .passOn) reply store =
      { store := store, events := [], next := .finish reply } := by
  rw [host.resume]
  split
  · rfl
  · next debouncer scheduler hosted =>
      have same := host.put_view store debouncer scheduler hosted
      simp [Debouncer.finish, same]

/-- Where there is no timer, the operation ends at once. It runs nothing, it leaves the debouncer
alone, and there is no timer after it. -/
def Spares (host : machine.Hosting σ) (op : Op) : Prop :=
  ∀ store debouncer scheduler, host.view store = some (debouncer, scheduler) →
    Scheduler.Vacant scheduler →
      (machine.start op store).works = [] ∧ (machine.start op store).next.frame? = none ∧
        ∃ later, Scheduler.Vacant later ∧
          host.view (machine.start op store).store = some (debouncer, later)

end Machine.Hosting

end Hosting

namespace DebouncerSession

/-- A session on a virtual clock hosts its debouncer. -/
def hosting : (machine (τ := τ)).Hosting (Agenda τ Unit) where
  view store := some (store.debouncer, store.agenda)
  put _ debouncer agenda := { agenda := agenda, debouncer := debouncer }
  callback _ := ()
  context _ := []
  frame := .serving
  view_put _ _ _ := rfl
  put_view store debouncer agenda hosted := by
    cases hosted
    rfl
  start op request store debouncer agenda asks hosted := by
    obtain rfl := Op.eq_of_request? asks
    cases hosted
    rfl
  resume _ _ _ := rfl

theorem spares_of_other {op : Op τ} (other : Requesting.request? op = none) :
    hosting.Spares op := by
  intro store debouncer agenda hosted vacant
  cases hosted
  cases op with
  | request => cases other
  | advance delay =>
      cases delay with
      | error fault => exact ⟨rfl, rfl, _, vacant, rfl⟩
      | ok delay =>
          have empty := Agenda.vacant_iff.mp vacant
          have arrives : machine.start (.advance (.ok delay)) store =
              answer { store with agenda := store.agenda.arrive (store.agenda.now + delay) }
                (.ok (.count 0)) := by
            simp [machine, start, sweep, (Agenda.holds_none_of_nil empty).fireNext?_eq_none]
          rw [arrives]
          exact ⟨rfl, rfl, store.agenda.arrive _, Agenda.vacant_iff.mpr empty, rfl⟩
  | now | policy | text => exact ⟨rfl, rfl, _, vacant, rfl⟩

end DebouncerSession

namespace BenchSession

instance : Requesting (Op τ) (Reply τ) where
  request?
    | .request request => some request
    | .now | .policy | .text | .setClock _ | .deactivate _ | .stick _ | .fire _ => none

/-- A session on a bench hosts its debouncer. -/
def hosting : (machine (τ := τ)).Hosting (Bench τ Unit) where
  view store := some (store.debouncer, store.bench)
  put _ debouncer bench := { bench := bench, debouncer := debouncer }
  callback _ := ()
  context _ := []
  frame := .serving
  view_put _ _ _ := rfl
  put_view store debouncer bench hosted := by
    cases hosted
    rfl
  start op request store debouncer bench asks hosted := by
    cases op with
    | request own =>
        cases asks
        cases hosted
        rfl
    | now | policy | text | setClock | deactivate | stick | fire => cases asks
  resume _ _ _ := rfl

theorem spares_of_other {op : Op τ} (other : Requesting.request? op = none) :
    hosting.Spares op := by
  intro store debouncer bench hosted vacant
  cases hosted
  have missing (id : TimerId) : store.bench.agenda.get? id = none :=
    Option.map_eq_none_iff.mp (vacant id)
  cases op with
  | request => cases other
  | now | policy | text => exact ⟨rfl, rfl, _, vacant, rfl⟩
  | setClock time =>
      cases time with
      | error fault => exact ⟨rfl, rfl, _, vacant, rfl⟩
      | ok time =>
          have empty := Bench.vacant_iff.mp vacant
          exact ⟨rfl, rfl, store.bench.setClock time, Bench.vacant_iff.mpr empty, rfl⟩
  | deactivate id | stick id | fire id =>
      simp only [machine, start, adjust, missing]
      exact ⟨rfl, rfl, _, vacant, rfl⟩

end BenchSession

namespace BackgroundSession

instance : Requesting (Op τ) (Reply τ) where
  request?
    | .request request => some request
    | .schedule _ _ _ | .cancel _ | .reschedule _ _ | .now | .setClock _ | .bind _ | .clearContext
    | .tidy _ | .submit _ _ | .report _ | .settle => none

/-- A session with a background pool hosts its debouncer, if it has one. -/
def hosting : (machine (τ := τ)).Hosting (Agenda τ (Deferred τ)) where
  view store := store.debouncer.map fun debouncer => (debouncer, store.agenda)
  put store debouncer agenda := { store with agenda := agenda, debouncer := some debouncer }
  callback store := ⟨store.context, .debouncer⟩
  context store := store.context
  frame := .serving
  view_put _ _ _ := rfl
  put_view store debouncer agenda hosted := by
    obtain ⟨_, held, same⟩ := Option.map_eq_some_iff.mp hosted
    cases same
    rw [← held]
  start op request store debouncer agenda asks hosted := by
    obtain ⟨_, held, same⟩ := Option.map_eq_some_iff.mp hosted
    cases same
    cases op with
    | request own =>
        cases asks
        simp only [machine, BackgroundSession.start, held]
        rfl
    | schedule | cancel | reschedule | now | setClock | bind | clearContext | tidy | submit
    | report | settle => cases asks
  resume tail reply store := by
    simp only [machine, BackgroundSession.resume]
    cases store.debouncer <;> rfl

/-- The operation sets a timer for a work of its own, or has one run on the pool. -/
def Op.employs : Op τ → Bool
  | .schedule _ _ _ | .submit _ _ => true
  | .cancel _ | .reschedule _ _ | .now | .setClock _ | .request _ | .bind _ | .clearContext
  | .tidy _ | .report _ | .settle => false

theorem spares_of_other {op : Op τ} (other : Requesting.request? op = none)
    (alone : op.employs = false) : hosting.Spares op := by
  intro store debouncer agenda hosted vacant
  obtain ⟨_, held, same⟩ := Option.map_eq_some_iff.mp hosted
  cases same
  have empty := Agenda.vacant_iff.mp vacant
  cases op with
  | request | schedule | submit => contradiction
  | cancel label =>
      simp only [machine, start, withTimer]
      cases store.labels.get? label with
      | none => exact ⟨rfl, rfl, _, vacant, hosted⟩
      | some id =>
          simp only [Agenda.cancel, Agenda.update_of_nil empty]
          exact ⟨rfl, rfl, _, vacant, hosted⟩
  | reschedule label time =>
      simp only [machine, start, withTimer]
      cases store.labels.get? label with
      | none => exact ⟨rfl, rfl, _, vacant, hosted⟩
      | some id =>
          cases time with
          | error fault => exact ⟨rfl, rfl, _, vacant, hosted⟩
          | ok time =>
              simp only [Agenda.reschedule, Agenda.update_of_nil empty]
              exact ⟨rfl, rfl, _, vacant, hosted⟩
  | setClock time =>
      cases time with
      | error fault => exact ⟨rfl, rfl, _, vacant, hosted⟩
      | ok time =>
          refine ⟨rfl, rfl, { store.agenda with now := time }, Agenda.vacant_iff.mpr empty, ?_⟩
          simp [hosting, machine, start, answer, held]
  | settle =>
      simp only [machine, start, settle, (Agenda.holds_none_of_nil empty).expireNext?_eq_none]
      exact ⟨rfl, rfl, _, vacant, hosted⟩
  | report ending =>
      cases ending with
      | cancelled | result | failed => exact ⟨rfl, rfl, _, vacant, hosted⟩
  | now | bind | clearContext | tidy => exact ⟨rfl, rfl, _, vacant, hosted⟩

end BackgroundSession

end Debounce
