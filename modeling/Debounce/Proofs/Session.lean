import Debounce.Proofs.History
import Debounce.Session.Debouncing

/-!
# Runs of a session with one debouncer

A section of an operation either serves a request or does one of four other things: it replies, it
records the instant of a call, it lets the clock arrive at a deadline, or it fires the next timer
that is due. An invariant of a session is therefore proved once for requests and once for these
four.
-/

namespace Debounce

namespace DebouncerSession

variable {τ : Type}

/-- A state of a run of a session. -/
abbrev State (τ : Type) := Config (Op τ) (Reply τ) (Store τ) (Frame τ) (Event τ)

/-- What the run of a session has recorded. -/
abbrev History (τ : Type) := List (Moment (Op τ) (Reply τ) (Event τ))

instance : Requesting (Op τ) (Reply τ) where
  request?
    | .request request => some request
    | .advance _ | .now | .policy | .text => none

theorem Op.eq_of_request? {op : Op τ} {request : Request (Work (Op τ) (Reply τ))}
    (asks : Requesting.request? op = some request) : op = .request request := by
  cases op with
  | request other => rw [Option.some.inj asks]
  | advance | now | policy | text => simp [Requesting.request?] at asks

/-- The turn of a timer that an advance fires. -/
def Store.firing (store : Store τ) (agenda : Agenda τ Unit) (id : TimerId)
    (timer : Timer τ Unit) : Turn τ (Agenda τ Unit) (Work (Op τ) (Reply τ)) :=
  { store.debouncer.fire agenda id with
    events := .timerFired id timer.executionTime :: (store.debouncer.fire agenda id).events }

theorem Store.firing_executes (store : Store τ) (agenda : Agenda τ Unit) (id : TimerId)
    (timer : Timer τ Unit) : (store.firing agenda id timer).Executes (.timer id) :=
  ⟨⟨.passOn, rfl⟩, [.timerFired id timer.executionTime], rfl, by simp⟩

variable [Instant τ]

/-- The first state of a session with a new debouncer, whose clock starts at the given reading. -/
def State.initial (settings : Settings) (name : Value) (clock : τ)
    (script : Script (Op τ) (Reply τ)) : State τ :=
  { store := .new (.new settings name clock) clock, script := script }

/-- What a section of an operation does that serves no request. -/
inductive Passage (store : Store τ) : Outcome τ → Prop where
  | answered {reply : Reply τ} : Passage store (answer store reply)
  | recorded {call : τ} {reply : Reply τ} :
      Passage store
        (answer { store with debouncer := { store.debouncer with lastCall := some call } } reply)
  | arrived {deadline : τ} {reply : Reply τ} :
      store.agenda.fireNext? deadline = none →
      Passage store (answer { store with agenda := store.agenda.arrive deadline } reply)
  | fired {deadline : τ} {count : Nat} {id : TimerId} {timer : Timer τ Unit}
      {agenda : Agenda τ Unit} :
      store.agenda.fireNext? deadline = some (id, timer, agenda) →
      Passage store (take (store.firing agenda id timer) fun _ => .advancing deadline count)

theorem passage_sweep (store : Store τ) (deadline : τ) (fired : Nat) :
    Passage store (sweep store deadline fired) := by
  rw [sweep]
  split
  · next absent => exact .arrived absent
  · next found => exact .fired found

theorem passage_resume (frame : Frame τ) (reply : Reply τ) (store : Store τ) :
    Passage store (resume frame reply store) := by
  cases frame with
  | serving tail =>
      cases tail with
      | passOn => exact .answered
      | record call =>
          cases reply with
          | error fault => exact .answered
          | ok value => exact .recorded
      | flushed =>
          cases reply with
          | error fault => exact .answered
          | ok value => exact .answered
  | advancing deadline fired =>
      cases reply with
      | error fault => exact .answered
      | ok value => exact passage_sweep store deadline fired

theorem passage_start (op : Op τ) (store : Store τ) (other : Requesting.request? op = none) :
    Passage store (start op store) := by
  cases op with
  | request request => simp [Requesting.request?] at other
  | advance delay =>
      cases delay with
      | error fault => exact .answered
      | ok delay => exact passage_sweep store _ 0
  | now | policy | text => exact .answered

namespace Passage

variable {store : Store τ} {outcome : Outcome τ}

theorem settings (passage : Passage store outcome) :
    outcome.store.debouncer.settings = store.debouncer.settings := by
  cases passage with
  | answered | recorded | arrived _ => rfl
  | fired _ => simp [take, Store.firing]

theorem work (passage : Passage store outcome) :
    outcome.store.debouncer.work = store.debouncer.work := by
  cases passage with
  | answered | recorded | arrived _ => rfl
  | fired _ => simp [take, Store.firing]

end Passage

/-- No operation changes the policy when it begins. -/
theorem settings_start (op : Op τ) (store : Store τ) :
    (start op store).store.debouncer.settings = store.debouncer.settings := by
  cases asks : Requesting.request? op with
  | none => exact (passage_start op store asks).settings
  | some request =>
      obtain rfl := Op.eq_of_request? asks
      simpa [start, take] using
        (Debouncer.served_serve store.debouncer store.agenda () request).settings

/-- An invariant of a session is kept by requests and by everything else. -/
theorem keeps {first last : State τ} (reaches : machine.Reaches first last)
    (Inv : Store τ → History τ → Prop)
    (began : ∀ op depth store history, Requesting.request? op = none → Inv store history →
      Inv store (history ++ [.began op depth]))
    (served : ∀ request depth store history, Inv store history →
      Inv (start (.request request) store).store
        (history ++ .began (.request request) depth ::
          (start (.request request) store).moments (.request request) depth))
    (passed : ∀ op depth store outcome history, Passage store outcome → Inv store history →
      Inv outcome.store (history ++ outcome.moments op depth))
    (initial : Inv first.store first.trace) : Inv last.store last.trace := by
  refine reaches.keeps_requests passage_start passage_resume Inv began ?_ passed initial
  intro op request depth store history asks kept
  obtain rfl := Op.eq_of_request? asks
  exact served request depth store history kept

/-- An invariant of the store of a session is kept by requests and by everything else. -/
theorem keeps_store {first last : State τ} (reaches : machine.Reaches first last)
    (Inv : Store τ → Prop)
    (served : ∀ request store, Inv store → Inv (start (.request request) store).store)
    (passed : ∀ store outcome, Passage store outcome → Inv store → Inv outcome.store)
    (initial : Inv first.store) : Inv last.store :=
  keeps reaches (fun store _ => Inv store) (fun _ _ _ _ _ kept => kept)
    (fun request _ store _ => served request store)
    (fun _ _ store outcome _ => passed store outcome) initial

/-- The policy of the debouncer is the one it was made with. -/
theorem settings_of_reaches {settings : Settings} {name : Value} {clock : τ}
    {script : Script (Op τ) (Reply τ)} {state : State τ}
    (reaches : machine.Reaches (State.initial settings name clock script) state) :
    state.store.debouncer.settings = settings := by
  refine keeps_store reaches (fun store => store.debouncer.settings = settings) ?_
    (fun store outcome passage => passage.settings.trans) ?_
  · intro request store same
    exact (settings_start (.request request) store).trans same
  · simp [State.initial, Store.new, Debouncer.new]

end DebouncerSession

end Debounce
