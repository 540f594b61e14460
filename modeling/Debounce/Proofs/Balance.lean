import Debounce.Proofs.Pending

/-!
# The balance of timers

On the trailing edge a timer that is started stands for one execution to come, and it ends in one
of two ways: the debouncer runs its work, or a reset drops the execution. Until then it is pending.
So the counts of these moments in the record of a run balance, in every state of the run.
-/

namespace Debounce

section Counts

variable {Op R τ : Type}

/-- A timer is started here. -/
def Moment.startsTimer : Moment Op R (Event τ) → Bool
  | .event happened => happened.startsTimer
  | .began _ _ | .ended _ _ _ => false

/-- The debouncer runs its work here, for some other reason than `callNow`. -/
def Moment.delivers : Moment Op R (Event τ) → Bool
  | .event (.executed _ cause) => decide (cause ≠ .callNow)
  | _ => false

/-- The request is a reset. -/
def Request.isReset {ω : Type} : Request ω → Bool
  | .reset => true
  | .call _ | .callNow | .flush => false

variable [Requesting Op (Reply τ)]

/-- A reset replies here that it dropped an execution. -/
def Moment.drops : Moment Op (Reply τ) (Event τ) → Bool
  | .ended op (.ok (.flag cancelled)) _ =>
      cancelled && (Requesting.request? op).any Request.isReset
  | _ => false

/-- Of the timers that are held before some moments or started in them, each ends in an execution
or by a reset, or it is held after them. -/
def Accounts (before after : Option TimerId) (moments : List (Moment Op (Reply τ) (Event τ))) :
    Prop :=
  before.isSome.toNat + moments.countP Moment.startsTimer =
    moments.countP Moment.delivers + moments.countP Moment.drops + after.isSome.toNat

namespace Accounts

variable {before middle after : Option TimerId} {op : Op} {depth : Nat}
variable {history moments : List (Moment Op (Reply τ) (Event τ))}

theorem append (early : Accounts before middle history) (late : Accounts middle after moments) :
    Accounts before after (history ++ moments) := by
  simp only [Accounts, List.countP_append] at early late ⊢
  omega

/-- The beginning of an operation starts and ends nothing. -/
theorem began (accounts : Accounts before after history) (op : Op) (depth : Nat) :
    Accounts before after (history ++ [.began op depth]) :=
  accounts.append (by simp [Accounts, Moment.startsTimer, Moment.delivers, Moment.drops])

/-- The end of an operation that is no reset ends no timer. -/
theorem ended (accounts : Accounts before after history)
    (other : Requesting.request? op ≠ some .reset) (reply : Reply τ) (depth : Nat) :
    Accounts before after (history ++ [.ended op reply depth]) := by
  have noReset : (Requesting.request? op).any Request.isReset = false := by
    rw [Option.any_eq_false]
    rintro (_ | _ | _ | _) asks
    · rfl
    · rfl
    · exact absurd asks other
    · rfl
  have kept : (Moment.ended op reply depth : Moment Op (Reply τ) (Event τ)).drops = false := by
    unfold Moment.drops
    split
    · next same =>
        cases same
        simp [noReset]
    · rfl
  exact accounts.append (by simp [Accounts, Moment.startsTimer, Moment.delivers, kept])

end Accounts

end Counts

/-! ## Turns -/

section Turns

variable {Op Store Frame τ κ : Type} [Requesting Op (Reply τ)] [Instant τ]
variable {debouncer : Debouncer τ (Work Op (Reply τ))} {agenda : Agenda τ κ} {callback : κ}
variable {request : Request (Work Op (Reply τ))}
variable {turn : Turn τ (Agenda τ κ) (Work Op (Reply τ))} {context : Fields}
variable {frame : Tail τ → Frame} {put : Debouncer τ (Work Op (Reply τ)) → Agenda τ κ → Store}
variable {op : Op} {depth : Nat} {before after : Option TimerId}

/-- A turn accounts for the timers with its events, unless it serves a reset. -/
theorem Turn.accounts (other : Requesting.request? op ≠ some .reset)
    (accounts : Accounts before after
      (turn.events.map .event : List (Moment Op (Reply τ) (Event τ)))) :
    Accounts before after ((turn.effect context frame put).moments op depth) := by
  cases demand : turn.demand with
  | reply reply =>
      rw [effect_of_reply demand, Effect.moments]
      exact accounts.ended other reply depth
  | execute tail =>
      cases held : turn.debouncer.work with
      | none =>
          simp only [effect, demand, held, Effect.moments]
          exact accounts.ended other _ depth
      | some work =>
          simp only [effect, demand, held, Effect.moments, List.append_nil, List.map_append]
          exact accounts.append
            (by simp [Accounts, Moment.startsTimer, Moment.delivers, Moment.drops])

namespace Debouncer

omit [Instant τ] in
/-- An execution ends the timer that was held, unless `callNow` is the cause. -/
theorem accounts_executed (before after : Option TimerId) (name : Value) (cause : Cause)
    (ends : before.isSome.toNat = (decide (cause ≠ .callNow)).toNat + after.isSome.toNat) :
    Accounts before after [(.event (.executed name cause) : Moment Op (Reply τ) (Event τ))] := by
  by_cases now : cause = .callNow <;>
    simp_all [Accounts, Moment.startsTimer, Moment.delivers, Moment.drops]

theorem Coherent.accounts_trailingCall {now : τ} (coherent : debouncer.Coherent agenda)
    (form : TrailingCall debouncer agenda callback now turn)
    (other : Requesting.request? op ≠ some .reset) :
    Accounts debouncer.timer turn.debouncer.timer
      ((turn.effect context frame put).moments op depth) := by
  apply Turn.accounts other
  cases form with
  | opened absent =>
      simp [Accounts, coherent.timer_eq_none absent, startTimer, recorded, Moment.startsTimer,
        Moment.delivers, Moment.drops]
  | overdue awaits _ _ => exact accounts_executed _ _ _ .call (by simp [execute, awaits.timer])
  | overtaken awaits _ refused => simp [coherent.cancels awaits.timer] at refused
  | moved _ _ _ =>
      simp [Accounts, recorded, Moment.startsTimer, Moment.delivers, Moment.drops]
  | kept _ _ _ => simp [Accounts, recorded]

/-- A reset replies whether it dropped the execution that the timer stood for. -/
theorem Coherent.accounts_reset (coherent : debouncer.Coherent agenda)
    (asks : Requesting.request? op = some .reset) :
    Accounts debouncer.timer (debouncer.reset agenda).debouncer.timer
      (((debouncer.reset agenda).effect context frame put).moments op depth) := by
  cases held : debouncer.timer with
  | none =>
      have replies : (debouncer.reset agenda).demand = .reply (.ok (.flag false)) := by
        simp [Debouncer.reset, held]
      rw [Turn.effect_of_reply replies, Effect.moments]
      simp [Accounts, Debouncer.reset, held, Moment.startsTimer, Moment.delivers, Moment.drops]
  | some id =>
      have replies : (debouncer.reset agenda).demand = .reply (.ok (.flag true)) := by
        simp [Debouncer.reset, held, coherent.cancels held]
      rw [Turn.effect_of_reply replies, Effect.moments]
      simp [Accounts, Debouncer.reset, held, coherent.cancels held, asks, Request.isReset,
        Moment.startsTimer, Moment.delivers, Moment.drops]

/-- On the trailing edge every turn accounts for the timers. -/
theorem Coherent.accounts (coherent : debouncer.Coherent agenda)
    (debounced : debouncer.settings.passthrough = false)
    (edge : debouncer.settings.leading = false)
    (form : Served debouncer agenda callback request turn)
    (asks : Requesting.request? op = some request) :
    Accounts debouncer.timer turn.debouncer.timer
      ((turn.effect context frame put).moments op depth) := by
  cases form with
  | refusedCall _ | refusedNow _ | nothingToFlush _ =>
      exact Turn.accounts (by simp [asks]) (by simp [Accounts])
  | passedOn _ through => simp [debounced] at through
  | leading _ _ leads _ => simp [edge] at leads
  | trailing _ _ _ call =>
      exact (coherent.rebind _).accounts_trailingCall call (by simp [asks])
  | ranNow _ =>
      exact Turn.accounts (by simp [asks]) (accounts_executed _ _ _ .callNow (by simp [execute]))
  | reset => exact coherent.accounts_reset asks
  | flushed held _ =>
      exact Turn.accounts (by simp [asks]) (accounts_executed _ _ _ .flush (by simp [execute, held]))
  | tooLateToFlush held refused => simp [coherent.cancels held] at refused

end Debouncer

end Turns

/-! ## Runs -/

namespace DebouncerSession

variable {τ : Type} [Instant τ] {store : Store τ} {outcome : Outcome τ} {op : Op τ}

/-- A reset ends in the section that begins it. -/
theorem request?_ne_reset {frame : Frame τ} (goesOn : (start op store).next.frame? = some frame) :
    Requesting.request? op ≠ some .reset := by
  intro asks
  obtain rfl := Op.eq_of_request? asks
  cases goesOn

theorem Passage.accounts (passage : Passage store outcome)
    (coherent : store.debouncer.Coherent store.agenda)
    (other : Requesting.request? op ≠ some .reset) (depth : Nat) :
    Accounts store.debouncer.timer outcome.store.debouncer.timer (outcome.moments op depth) := by
  have answered (reply : Reply τ) : Accounts store.debouncer.timer store.debouncer.timer
      [(.ended op reply depth : Moment (Op τ) (Reply τ) (Event τ))] := by
    have nothing : Accounts store.debouncer.timer store.debouncer.timer ([] : History τ) := by
      simp [Accounts]
    exact nothing.ended other reply depth
  cases passage with
  | answered | recorded | arrived _ => exact answered _
  | @fired _ _ id timer agenda found =>
      have held := (coherent.timer_of_fireNext? found).1
      rw [take, Turn.effect_store]
      apply Turn.accounts other
      simp [Accounts, Store.firing, held, Debouncer.fire, Debouncer.execute,
        Moment.startsTimer, Moment.delivers, Moment.drops]

/-- The debouncer has the given policy, and the record accounts for the timer that it holds. -/
structure Balanced (settings : Settings) (store : Store τ) (history : History τ) : Prop where
  settings : store.debouncer.settings = settings
  coherent : store.debouncer.Coherent store.agenda
  accounts : Accounts none store.debouncer.timer history

namespace Balanced

variable {settings : Settings} {history : History τ} {depth : Nat}

omit [Instant τ] in
theorem began (balanced : Balanced settings store history) (op : Op τ) (depth : Nat) :
    Balanced settings store (history ++ [.began op depth]) :=
  ⟨balanced.settings, balanced.coherent, balanced.accounts.began op depth⟩

theorem passed (balanced : Balanced settings store history) (passage : Passage store outcome)
    (other : Requesting.request? op ≠ some .reset) :
    Balanced settings outcome.store (history ++ outcome.moments op depth) where
  settings := passage.settings.trans balanced.settings
  coherent := passage.coherent balanced.coherent
  accounts := balanced.accounts.append (passage.accounts balanced.coherent other depth)

theorem served (balanced : Balanced settings store history)
    (debounced : settings.passthrough = false) (edge : settings.leading = false)
    (request : Request (Work (Op τ) (Reply τ))) :
    Balanced settings (start (.request request) store).store
      (history ++ (start (.request request) store).moments (.request request) depth) := by
  have form := Debouncer.served_serve store.debouncer store.agenda () request
  have coherent := balanced.coherent
  have same := balanced.settings
  constructor
  · simpa [start, take] using form.settings.trans same
  · simpa [start, take] using coherent.served form
  · rw [start, take, Turn.effect_store]
    exact balanced.accounts.append
      (coherent.accounts (same ▸ debounced) (same ▸ edge) form rfl)

end Balanced

/-- In every state of a run on the trailing edge the record accounts for the timer that is held. -/
theorem balanced_of_reaches {settings : Settings} {name : Value} {clock : τ}
    {script : Script (Op τ) (Reply τ)} {state : State τ}
    (debounced : settings.passthrough = false) (edge : settings.leading = false)
    (reaches : machine.Reaches (State.initial settings name clock script) state) :
    Balanced settings state.store state.trace := by
  refine reaches.keeps_suspended (fun op => Requesting.request? op ≠ some .reset)
    (Balanced settings) (fun op store frame => request?_ne_reset) ?_ ?_ ?_ rfl
  · intro op depth store history balanced
    rw [List.append_cons]
    have begun := balanced.began op depth
    cases asks : Requesting.request? op with
    | none => exact begun.passed (passage_start op store asks) (by simp [asks])
    | some request =>
        obtain rfl := Op.eq_of_request? asks
        exact begun.served debounced edge request
  · intro op frame reply depth store history other balanced
    exact balanced.passed (passage_resume frame reply store) other
  · exact ⟨by simp [State.initial, Store.new, Debouncer.new], .new settings name,
      by simp [Accounts, State.initial, Store.new, Debouncer.new]⟩

/-- On the trailing edge every timer that was started has ended once or is pending: in every state
of a run, also inside works, the timers started so far are as many as the executions begun for
some other reason than `callNow`, the resets that dropped an execution, and the pending timer
together. -/
theorem every_timer_ends_once (settings : Settings) (name : Value) (clock : τ)
    (script : Script (Op τ) (Reply τ)) (state : State τ)
    (debounced : settings.passthrough = false) (edge : settings.leading = false)
    (reaches : machine.Reaches (State.initial settings name clock script) state) :
    state.trace.countP Moment.startsTimer =
      state.trace.countP Moment.delivers + state.trace.countP Moment.drops +
        (if state.store.debouncer.pending state.store.agenda = true then 1 else 0) := by
  have balanced := balanced_of_reaches debounced edge reaches
  have accounts := balanced.accounts
  rw [balanced.coherent.pending_eq]
  cases held : state.store.debouncer.timer with
  | none => simpa [Accounts, held] using accounts
  | some id => simpa [Accounts, held] using accounts

/-- Of four timers one fired and one was flushed, each time with a work that calls the debouncer
again and fails; the third was dropped by a reset, and the fourth is pending. -/
theorem every_timer_ends_once_of_four :
    let first := State.initial fiveSeconds .null 0
      (.before
        [.request (.call (some (failingAgain [0]))), .advance (.ok 7), .request .flush,
          .request .reset, .request (.call none)]
        (.done (.ok .nothing)))
    let state := machine.run 9 first
    fiveSeconds.passthrough = false ∧ fiveSeconds.leading = false ∧
      machine.Reaches first state ∧ state.store.debouncer.pending state.store.agenda = true ∧
      state.trace.countP Moment.startsTimer = 4 ∧ state.trace.countP Moment.delivers = 2 ∧
      4 = 2 + state.trace.countP Moment.drops + 1 := by
  intro first state
  have debounced : fiveSeconds.passthrough = false := by decide +kernel
  have reaches := Machine.reaches_run machine 9 first
  have pending : state.store.debouncer.pending state.store.agenda = true := by decide +kernel
  have started : state.trace.countP Moment.startsTimer = 4 := by decide +kernel
  have delivered : state.trace.countP Moment.delivers = 2 := by decide +kernel
  have balance := every_timer_ends_once fiveSeconds _ _ _ state debounced rfl reaches
  rw [started, delivered, pending] at balance
  exact ⟨debounced, rfl, reaches, pending, started, delivered, balance⟩

end DebouncerSession

end Debounce
