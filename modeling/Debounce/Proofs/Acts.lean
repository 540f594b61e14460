import Debounce.Proofs.Pooled

/-!
# What operations do on the pool

A section of an operation may begin with the report of a failure that it has been told of. Apart
from this it lets a timer fire, or it leaves the pool to others: then it touches a timer at most, or
it moves the clock or sets a timer and is over. Whatever the operation, it does one of these.
-/

namespace Debounce

variable {τ : Type}

namespace Event

/-- The event is about the pool: a hand-over, or a failure of a work that ran on it. -/
def concernsPool : Event τ → Bool
  | handedOver _ | handOverFailed _ _ _ | workFailed _ _ => true
  | _ => false

section Asides

variable {events : List (Event τ)} {test : Event τ → Bool}
variable (about : ∀ event, test event = true → event.concernsPool = true)
variable (aside : ∀ event ∈ events, event.concernsPool = false)

include about aside

theorem filter_of_aside : events.filter test = [] := by
  apply List.filter_eq_nil_iff.mpr
  intro event member passes
  cases (about event passes).symm.trans (aside event member)

theorem countP_of_aside : events.countP test = 0 := by
  rw [List.countP_eq_length_filter, filter_of_aside about aside]
  rfl

end Asides

end Event

namespace BackgroundSession

/-- The timer whose callback has to reply before the operation goes on. -/
def Frame.timer? : Frame τ → Option TimerId
  | .settling timer? _ => timer?
  | .serving _ | .submitted _ => none

/-- Timers fire while the operation is suspended. -/
def Frame.settles : Frame τ → Bool
  | .settling _ _ => true
  | .serving _ | .submitted _ => false

/-- What an operation reports when it begins. -/
def Op.blame : Op τ → List (Event τ)
  | .report (.failed fault) => failure none (.error fault)
  | _ => []

/-- What an operation reports where it goes on with a reply. -/
def Frame.blame (frame : Frame τ) (reply : Reply τ) : List (Event τ) :=
  match frame with
  | .serving _ => []
  | .settling timer? _ => failure timer? reply
  | .submitted _ => failure none reply

/-- The work of the debouncer. -/
def Store.held (store : Store τ) : Option (Work (Op τ) (Reply τ)) :=
  store.debouncer.bind Debouncer.work

/-- The work that a task runs, with that of the debouncer. -/
def Task.work? (task : Task τ) (held : Option (Work (Op τ) (Reply τ))) :
    Option (Work (Op τ) (Reply τ)) :=
  match task with
  | .work work? => work?
  | .debouncer => held

/-- What a callback runs. -/
def callback (work? : Option (Work (Op τ) (Reply τ))) : Script (Op τ) (Reply τ) :=
  match work? with
  | some work => work.body {}
  | none => .done (.error .notCallable)

/-- Every timer of the debouncer finds work. -/
def Store.Supplied (store : Store τ) : Prop :=
  (∀ debouncer, store.debouncer = some debouncer →
    BackgroundSession.Supplied debouncer store.agenda) ∧
    (store.debouncer = none → Independent store.agenda)

/-- A section that leaves the pool to others. -/
structure Aside (outcome : Outcome τ) : Prop where
  silent : ∀ event ∈ outcome.events, event.concernsPool = false
  frame : ∀ frame, outcome.next.frame? = some frame → frame.settles = false

variable [Instant τ]

/-- A section that lets the next expired timer fire. -/
inductive LetsFire (agenda : Agenda τ (Deferred τ)) (held : Option (Work (Op τ) (Reply τ))) :
    Outcome τ → Prop where
  /-- The pool cannot be made. -/
  | refused {id : TimerId} {timer : Timer τ (Deferred τ)} {outcome : Outcome τ} {context : Fields}
      {fault : Fault} :
      agenda.expireNext? = some (id, timer, outcome.store.agenda) →
      outcome.events = [.handOverFailed id timer.executionTime fault] →
      outcome.next = .skip (.settling none context) (.ok .nothing) →
      LetsFire agenda held outcome
  /-- The pool takes over the callback. -/
  | handed {id : TimerId} {timer : Timer τ (Deferred τ)} {outcome : Outcome τ} {context : Fields}
      {told : List (Event τ)} :
      agenda.expireNext? = some (id, timer, outcome.store.agenda) →
      outcome.events = .handedOver id :: told → (∀ event ∈ told, event.concernsPool = false) →
      outcome.next.frame? = some (.settling (some id) context) →
      outcome.next.script? = some (callback (timer.callback.task.work? held)) →
      LetsFire agenda held outcome

/-- What a section does, apart from the report that it may begin with. -/
inductive Acts (agenda : Agenda τ (Deferred τ)) (held : Option (Work (Op τ) (Reply τ))) :
    Outcome τ → Prop where
  /-- It touches a timer at most. -/
  | touches {outcome : Outcome τ} :
      Aside outcome → agenda.Touches outcome.store.agenda → Acts agenda held outcome
  /-- It moves the clock or sets a timer, and is over. -/
  | finishes {outcome : Outcome τ} :
      Aside outcome → outcome.next = .finish (.ok .nothing) →
      (outcome.store.agenda.timers = agenda.timers ∨
        ∃ time deferred, outcome.store.agenda = (agenda.add time deferred).2) →
      Acts agenda held outcome
  | fires {outcome : Outcome τ} : LetsFire agenda held outcome → Acts agenda held outcome

/-- The section reports the events and then acts, and the timers of the debouncer find work. -/
def ActsAfter (earlier : List (Event τ)) (store : Store τ) (outcome : Outcome τ) : Prop :=
  ∃ rest, Acts store.agenda store.held rest ∧ rest.store.Supplied ∧
    outcome = { rest with events := earlier ++ rest.events }

section Sections

variable {store : Store τ} {outcome : Outcome τ} {earlier : List (Event τ)}

omit [Instant τ] in
theorem Store.Supplied.of_keeps {other : Store τ} (supplied : store.Supplied)
    (debouncer : other.debouncer = store.debouncer) (keeps : store.agenda.Keeps other.agenda) :
    other.Supplied :=
  ⟨fun held holds => (supplied.1 held (debouncer ▸ holds)).of_keeps keeps,
    fun absent => (supplied.2 (debouncer ▸ absent)).of_keeps keeps⟩

theorem ActsAfter.supplied (acts : ActsAfter earlier store outcome) : outcome.store.Supplied := by
  obtain ⟨_, _, after, rfl⟩ := acts
  exact after

end Sections

/-! ## Runs -/

section Runs

variable {first state : State τ} {store : Store τ}

end Runs

end BackgroundSession

end Debounce
