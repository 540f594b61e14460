import Debounce.Proofs.Clock
import Debounce.Proofs.Notes
import Debounce.Proofs.Pending

/-!
# Calls and periods

An observer of a debouncer notes the calls that find work and the resets, in their order. Of a call
it notes the instant, and whether the call started a timer or ran the work at once. A call that
finds no work fails, and nothing is noted of it. The period of a timer is read off the notes: it
begins with the last call that started one.

In a calm run the debouncer and its agenda act as if a call were recorded at once, also when the
work runs first. So an invariant of calm runs is proved for requests, for the passing of time and
for timers that fire, and no operation is ever seen half-way.
-/

namespace Debounce

/-- A call that found work, as an observer sees it. -/
structure Call (τ : Type) where
  instant : τ
  /-- It started a timer. -/
  opened : Bool
  /-- It ran the work at once. -/
  executed : Bool
  deriving DecidableEq

/-- What an observer notes of an operation. -/
inductive Note (τ : Type) where
  | call (call : Call τ)
  | reset
  deriving DecidableEq

section Notes

variable {τ : Type}

/-- The call that is noted, if it is one. -/
def Note.call? : Note τ → Option (Call τ)
  | .call made => some made
  | .reset => none

/-- The calls among the notes. -/
def calls (notes : List (Note τ)) : List (Call τ) := notes.filterMap Note.call?

/-- The instants of the calls among the notes. -/
def instants (notes : List (Note τ)) : List τ := (calls notes).map Call.instant

@[simp] theorem calls_append (notes more : List (Note τ)) :
    calls (notes ++ more) = calls notes ++ calls more :=
  List.filterMap_append

@[simp] theorem calls_map (made : List (Call τ)) : calls (made.map .call) = made := by
  simp [calls, List.filterMap_map, Function.comp_def, Note.call?]

@[simp] theorem calls_call (call : Call τ) : calls [.call call] = [call] := rfl

@[simp] theorem calls_reset : calls [(.reset : Note τ)] = [] := rfl

@[simp] theorem instants_append (notes more : List (Note τ)) :
    instants (notes ++ more) = instants notes ++ instants more := by
  simp [instants]

@[simp] theorem instants_call (call : Call τ) : instants [.call call] = [call.instant] := rfl

@[simp] theorem instants_reset : instants [(.reset : Note τ)] = [] := rfl

/-- The last period of some notes was opened by a call, and there were calls since that neither
opened a period nor ran the work. -/
structure Period (notes before : List (Note τ)) (opening : Call τ) (since : List (Call τ)) :
    Prop where
  notes : notes = before ++ .call opening :: since.map .call
  opened : opening.opened = true
  continued : ∀ call ∈ since, call.opened = false ∧ call.executed = false

namespace Period

variable {notes before : List (Note τ)} {opening : Call τ} {since : List (Call τ)}

theorem of_opened (notes : List (Note τ)) (opened : opening.opened = true) :
    Period (notes ++ [.call opening]) notes opening [] :=
  ⟨rfl, opened, by simp⟩

theorem call (period : Period notes before opening since) {call : Call τ}
    (continued : call.opened = false ∧ call.executed = false) :
    Period (notes ++ [.call call]) before opening (since ++ [call]) where
  notes := by
    rw [period.notes, List.map_append, List.append_assoc]
    rfl
  opened := period.opened
  continued := by
    intro other member
    rcases List.mem_append.mp member with earlier | this
    · exact period.continued other earlier
    · rwa [List.mem_singleton.mp this]

/-- The instants of a period come after those before it. -/
theorem instants (period : Period notes before opening since) :
    instants notes =
      Debounce.instants before ++ opening.instant :: since.map Call.instant := by
  rw [period.notes, List.append_cons, instants_append, instants_append]
  simp [Debounce.instants]

end Period

end Notes

/-- A work begins to run. -/
def Event.runsWork {τ : Type} : Event τ → Bool
  | .ran _ _ _ _ => true
  | _ => false

/-- What there is to note of a call that a turn serves. -/
def Turn.call {τ σ ω : Type} (turn : Turn τ σ ω) (now : τ) : Call τ where
  instant := now
  opened := turn.events.any Event.startsTimer
  executed := match turn.demand with
    | .reply _ => false
    | .execute _ => true

namespace DebouncerSession

variable {τ : Type} [Instant τ]

/-- What is noted of an operation that begins. -/
def note (op : Op τ) (store : Store τ) : List (Note τ) :=
  match op with
  | .request (.call work?) =>
      if (work?.or store.debouncer.work).isSome then
        let events := (start op store).events
        [.call
          { instant := store.agenda.now
            opened := events.any Event.startsTimer
            executed := events.any Event.runsWork }]
      else []
  | .request .reset => [.reset]
  | .request .callNow | .request .flush | .advance _ | .now | .policy | .text => []

variable {store : Store τ} {work? : Option (Work (Op τ) (Reply τ))} {work : Work (Op τ) (Reply τ)}

omit [Instant τ] in
theorem runsWork_of_silent {events : List (Event τ)}
    (silent : ∀ event ∈ events, ¬ event.IsExecution) : events.any Event.runsWork = false := by
  rw [List.any_eq_false]
  intro event member runs
  cases event with
  | ran => exact silent _ member trivial
  | executed | wasReset | timerStarted | timerMoved | timerFired | registered | handedOver
    | handOverFailed | workFailed => cases runs

/-- A call that finds work is noted as its turn serves it. -/
theorem note_call (found : work?.or store.debouncer.work = some work) :
    note (.request (.call work?)) store =
      [.call ((store.debouncer.serve store.agenda () (.call work?)).call store.agenda.now)] := by
  have form := Debouncer.served_serve store.debouncer store.agenda () (.call work?)
  simp only [note, found, Option.isSome_some, if_true, start, take]
  generalize store.debouncer.serve store.agenda () (.call work?) = turn at form
  have held : turn.debouncer.work = some work := form.work.trans found
  rcases form.executes_or_replies with ⟨cause, executes⟩ | replies
  · rcases executes.demand with ⟨tail, demand⟩
    simp [Turn.effect, Turn.call, demand, held, Event.startsTimer, Event.runsWork]
  · rcases replies.demand with ⟨reply, demand⟩
    rw [Turn.effect_of_reply demand, runsWork_of_silent replies.events]
    simp [Turn.call, demand]

theorem instants_note_call (found : work?.or store.debouncer.work = some work) :
    instants (note (.request (.call work?)) store) = [store.agenda.now] := by
  rw [note_call found]
  rfl

/-- A request is noted at the instant when it is made, if it is a call. -/
theorem instants_note (op : Op τ) (store : Store τ) :
    instants (note op store) = [] ∨ instants (note op store) = [store.agenda.now] := by
  unfold note
  split
  · split
    · exact .inr rfl
    · exact .inl rfl
  · exact .inl rfl
  all_goals exact .inl rfl

theorem note_of_other {op : Op τ} (other : Requesting.request? op = none) : note op store = [] := by
  cases op with
  | request request => simp [Requesting.request?] at other
  | advance | now | policy | text => rfl

/-- A call that finds no work is refused and not noted. -/
theorem note_refused (absent : work?.or store.debouncer.work = none) :
    note (.request (.call work?)) store = [] := by
  simp [note, absent]

end DebouncerSession

/-! ## The pending timer -/

instance {τ : Type} [DecidableEq τ] : DecidableEq (Timer.Status τ) := fun a b =>
  decidable_of_iff (a.active = b.active ∧ a.executionTime = b.executionTime)
    ⟨fun ⟨actives, times⟩ => by cases a; cases b; cases actives; cases times; rfl,
      fun same => same ▸ ⟨rfl, rfl⟩⟩

namespace Debouncer

variable {τ κ ω : Type} [Instant τ] {debouncer : Debouncer τ ω} {agenda : Agenda τ κ}
variable {callback : κ} {turn : Turn τ (Agenda τ κ) ω} {id : TimerId} {time stamp : τ}

theorem awaits_of_timerStatus? (stamped : debouncer.timer.isSome → debouncer.leadingTimestamp.isSome)
    (status : debouncer.timerStatus? agenda = some ⟨true, time⟩) :
    ∃ id stamp, Awaits debouncer agenda id time stamp := by
  rcases Option.bind_eq_some_iff.mp status with ⟨id, held, shown⟩
  rcases Option.isSome_iff_exists.mp (stamped (by simp [held])) with ⟨stamp, begun⟩
  exact ⟨id, stamp, held, shown, begun⟩

/-- The timer that is pending after a call on the trailing edge was started by this call, or the
call has left it where it was or moved it to a later time. -/
theorem TrailingCall.awaits
    (form : TrailingCall debouncer agenda callback agenda.now turn)
    (awaits : Awaits turn.debouncer turn.scheduler id time stamp) :
    (stamp = agenda.now ∧ time = agenda.now + debouncer.firstDelay agenda.now ∧
        turn.call agenda.now = ⟨agenda.now, true, false⟩) ∨
      ∃ earlier, Awaits debouncer agenda id earlier stamp ∧
        time = Instant.later earlier (debouncer.extension stamp agenda.now) ∧
        turn.call agenda.now = ⟨agenda.now, false, false⟩ := by
  rcases awaits with ⟨held, status, stamped⟩
  cases form with
  | opened _ =>
      left
      obtain rfl : (agenda.add (agenda.now + debouncer.firstDelay agenda.now) callback).1 = id :=
        Option.some.inj held
      have same := (Agenda.status?_add agenda _ callback).symm.trans status
      exact ⟨(Option.some.inj stamped).symm, by simpa using same.symm, rfl⟩
  | overdue _ _ _ => simp [execute] at held
  | @overtaken other earlier begun before _ refused =>
      have pending : agenda.isPending other = true := Agenda.isPending_iff.mpr ⟨_, before.status⟩
      simp [Agenda.cancel_outcome, pending] at refused
  | @moved other earlier begun before _ later =>
      right
      obtain rfl : other = id := Option.some.inj (before.timer.symm.trans held)
      obtain rfl : begun = stamp := Option.some.inj (before.stamped.symm.trans stamped)
      have same := (Agenda.status?_reschedule before.status).symm.trans status
      refine ⟨earlier, before, ?_, rfl⟩
      rw [Instant.later, if_pos later]
      simpa using same.symm
  | @kept other earlier begun before _ settled =>
      right
      obtain rfl : other = id := Option.some.inj (before.timer.symm.trans held)
      obtain rfl : begun = stamp := Option.some.inj (before.stamped.symm.trans stamped)
      have same := before.status.symm.trans status
      refine ⟨earlier, before, ?_, rfl⟩
      rw [Instant.later, if_neg settled]
      simpa using same.symm

end Debouncer

namespace DebouncerSession

variable {τ : Type} [Instant τ] {store : Store τ}
variable {id : TimerId} {time stamp : τ}

/-- Where the timer comes from that is pending after an operation has begun, and what is noted. -/
inductive Awaited (store : Store τ) (id : TimerId) (time stamp : τ) : List (Note τ) → Prop where
  /-- It was pending for this time before. -/
  | same :
      Debouncer.Awaits store.debouncer store.agenda id time stamp → Awaited store id time stamp []
  /-- A call has started it. -/
  | opened :
      stamp = store.agenda.now →
      time = store.agenda.now + store.debouncer.firstDelay store.agenda.now →
      Awaited store id time stamp [.call ⟨store.agenda.now, true, false⟩]
  /-- A call has moved it, unless it was late enough already. -/
  | continued {earlier : τ} :
      Debouncer.Awaits store.debouncer store.agenda id earlier stamp →
      time = Instant.later earlier (store.debouncer.extension stamp store.agenda.now) →
      Awaited store id time stamp [.call ⟨store.agenda.now, false, false⟩]

/-- On the trailing edge a request leaves the pending timer alone, or it is a call that has started
or moved it. -/
theorem awaited_of_request (debounced : store.debouncer.settings.passthrough = false)
    (edge : store.debouncer.settings.leading = false)
    (request : Request (Work (Op τ) (Reply τ)))
    (awaits : Debouncer.Awaits (start (.request request) store).store.debouncer
      (start (.request request) store).store.agenda id time stamp) :
    Awaited store id time stamp (note (.request request) store) := by
  have form := Debouncer.served_serve store.debouncer store.agenda () request
  rw [start, take, Turn.effect_store] at awaits
  have noted : ∀ work? work, request = .call work? → work?.or store.debouncer.work = some work →
      note (.request request) store =
        [.call ((store.debouncer.serve store.agenda () request).call store.agenda.now)] := by
    rintro work? work rfl found
    exact note_call found
  generalize store.debouncer.serve store.agenda () request = turn at form awaits noted
  cases form with
  | refusedCall absent =>
      rw [note_refused (by simpa using absent)]
      exact .same awaits
  | passedOn _ through => simp [debounced] at through
  | leading _ _ leads _ => simp [edge] at leads
  | trailing found _ _ call =>
      rw [noted _ _ rfl found]
      rcases call.awaits awaits with ⟨stamped, delayed, called⟩ | ⟨earlier, before, moved, called⟩
      · rw [called]
        exact .opened stamped delayed
      · rw [called]
        exact .continued ⟨before.timer, before.status, before.stamped⟩ moved
  | refusedNow | ranNow _ | nothingToFlush _ => exact .same awaits
  | reset => simpa [Debouncer.reset] using awaits.timer
  | flushed _ _ => cases awaits.timer
  | @tooLateToFlush other held _ =>
      obtain rfl : other = id := Option.some.inj (held.symm.trans awaits.timer)
      have pending : (store.agenda.cancel other).2.isPending other = true :=
        Agenda.isPending_iff.mpr ⟨_, awaits.status⟩
      simp [Agenda.isPending_cancel] at pending

theorem now_request (request : Request (Work (Op τ) (Reply τ))) (store : Store τ) :
    (start (.request request) store).store.agenda.now = store.agenda.now := by
  rw [start, take, Turn.effect_store]
  exact (Debouncer.served_serve store.debouncer store.agenda () request).now

/-- The clock does not go back. -/
theorem Passage.now_le [Instant.Lawful τ] {outcome : Outcome τ} (passage : Passage store outcome)
    (comparable : store.agenda.now ≤ store.agenda.now) :
    store.agenda.now ≤ outcome.store.agenda.now := by
  cases passage with
  | answered | recorded => exact comparable
  | arrived _ => exact Instant.le_later_left comparable _
  | fired found =>
      rcases Agenda.fireNext?_eq_some found with ⟨_, _, _, rfl⟩
      rw [take, Turn.effect_store]
      exact Instant.le_later_left comparable _

/-- Nothing but a request starts or moves a timer. -/
theorem Passage.awaits {outcome : Outcome τ} (passage : Passage store outcome)
    (coherent : store.debouncer.Coherent store.agenda)
    (awaits : Debouncer.Awaits outcome.store.debouncer outcome.store.agenda id time stamp) :
    Debouncer.Awaits store.debouncer store.agenda id time stamp := by
  cases passage with
  | answered | recorded | arrived _ => exact ⟨awaits.timer, awaits.status, awaits.stamped⟩
  | fired found =>
      have held := (coherent.timer_of_fireNext? found).1
      have free := awaits.timer
      simp [take, Store.firing, Debouncer.fire_timer _ held] at free

end DebouncerSession

/-! ## Calm runs -/

/-- The debouncer as it will be when the operation has ended that goes on at the frame, if the work
returns. -/
def Debouncer.settled {τ ω : Type} (debouncer : Debouncer τ ω)
    (frame? : Option (DebouncerSession.Frame τ)) : Debouncer τ ω :=
  match frame? with
  | some (.serving (.record call)) => { debouncer with lastCall := some call }
  | some (.serving .passOn) | some (.serving .flushed) | some (.advancing _ _) | none => debouncer

namespace Debouncer

variable {τ κ ω : Type} {debouncer : Debouncer τ ω} {agenda : Agenda τ κ}
variable (frame? : Option (DebouncerSession.Frame τ))

/-- What is recorded as the last call is all that the end of an operation changes. -/
theorem settled_eq :
    debouncer.settled frame? =
      { debouncer with lastCall := (debouncer.settled frame?).lastCall } := by
  unfold settled
  split <;> rfl

theorem Coherent.settled (coherent : debouncer.Coherent agenda) :
    (debouncer.settled frame?).Coherent agenda := by
  rw [settled_eq]
  exact coherent.record _

theorem Awaits.of_settled [Instant τ] {id : TimerId} {time stamp : τ}
    (awaits : Awaits (debouncer.settled frame?) agenda id time stamp) :
    Awaits debouncer agenda id time stamp := by
  rw [settled_eq] at awaits
  exact ⟨awaits.timer, awaits.status, awaits.stamped⟩

end Debouncer

namespace DebouncerSession

variable {τ : Type} [Instant τ]

/-- The debouncer after a section of an operation, as it will be when the operation has ended. -/
def settle (outcome : Outcome τ) : Debouncer τ (Work (Op τ) (Reply τ)) :=
  outcome.store.debouncer.settled outcome.next.frame?

/-- When a call has ended that found work, it is recorded. -/
theorem settle_call {store : Store τ} {work? : Option (Work (Op τ) (Reply τ))}
    {work : Work (Op τ) (Reply τ)} (found : work?.or store.debouncer.work = some work)
    (debounced : store.debouncer.settings.passthrough = false) :
    settle (start (.request (.call work?)) store) =
      { (store.debouncer.serve store.agenda () (.call work?)).debouncer with
        lastCall := some store.agenda.now } := by
  have form := Debouncer.served_serve store.debouncer store.agenda () (.call work?)
  rw [start]
  generalize store.debouncer.serve store.agenda () (.call work?) = turn at form
  cases form with
  | refusedCall absent => simp [absent] at found
  | passedOn _ through => simp [debounced] at through
  | leading _ _ _ call => cases call <;> rfl
  | trailing _ _ _ call => cases call <;> rfl

section Settle

variable {store : Store τ}

theorem settle_settings (request : Request (Work (Op τ) (Reply τ))) :
    (settle (start (.request request) store)).settings = store.debouncer.settings := by
  have form := Debouncer.served_serve store.debouncer store.agenda () request
  rw [settle, Debouncer.settled_eq]
  simpa [start, take] using form.settings

theorem coherent_settle (coherent : store.debouncer.Coherent store.agenda)
    (request : Request (Work (Op τ) (Reply τ))) :
    (settle (start (.request request) store)).Coherent
      (start (.request request) store).store.agenda := by
  have form := Debouncer.served_serve store.debouncer store.agenda () request
  apply Debouncer.Coherent.settled
  simpa [start, take] using coherent.served form

theorem settle_refused {work? : Option (Work (Op τ) (Reply τ))}
    (absent : work?.or store.debouncer.work = none) :
    settle (start (.request (.call work?)) store) = store.debouncer := by
  rw [settle, start, take, Debouncer.serve, Debouncer.call, absent]
  rfl

theorem settle_callNow : settle (start (.request .callNow) store) = store.debouncer := by
  rw [settle, start, take, Debouncer.serve, Debouncer.callNow]
  cases held : store.debouncer.work with
  | none => rfl
  | some work => simp [Debouncer.execute, Turn.effect, held, Next.frame?, Debouncer.settled]

theorem settle_reset : settle (start (.request .reset) store) =
    Debouncer.rewound { store.debouncer with timer := none } store.agenda.now := by
  rw [settle, start, take, Debouncer.serve, Debouncer.reset]
  cases held : store.debouncer.timer with
  | none => rfl
  | some id => simp [Turn.effect, Next.frame?, Debouncer.settled]

theorem settle_flush (store : Store τ) : ∃ timer,
    settle (start (.request .flush) store) = { store.debouncer with timer := timer } := by
  have form := Debouncer.served_serve store.debouncer store.agenda () .flush
  rw [settle, start]
  generalize store.debouncer.serve store.agenda () .flush = turn at form
  cases form with
  | nothingToFlush | tooLateToFlush => exact ⟨_, rfl⟩
  | flushed =>
      refine ⟨none, ?_⟩
      rw [take, Turn.effect]
      dsimp only [Debouncer.execute]
      split <;> rfl

/-- On the trailing edge the last call is the one that was noted last. -/
theorem settle_lastCall (debounced : store.debouncer.settings.passthrough = false)
    (edge : store.debouncer.settings.leading = false)
    (request : Request (Work (Op τ) (Reply τ))) :
    (settle (start (.request request) store)).lastCall =
      (instants (note (.request request) store)).getLast?.or store.debouncer.lastCall := by
  cases request with
  | call work? =>
      cases found : work?.or store.debouncer.work with
      | none =>
          rw [settle_refused found, note_refused found]
          rfl
      | some work =>
          rw [settle_call found debounced, instants_note_call found]
          rfl
  | callNow =>
      rw [settle_callNow]
      rfl
  | reset =>
      rw [settle_reset, Debouncer.rewound]
      simp [edge, note]
  | flush =>
      rcases settle_flush store with ⟨timer, settled⟩
      rw [settled]
      rfl

end Settle

section KeepsCalm

variable {first last : State τ} {notes : List (Note τ)}
variable (noted : machine.Noted note first last notes) (calm : machine.Calm first last)
variable (outermost : first.stack = [])
variable (Inv : Debouncer τ (Work (Op τ) (Reply τ)) → Agenda τ Unit → List (Note τ) → Prop)
variable (served : ∀ request store notes, Inv store.debouncer store.agenda notes →
  Inv (settle (start (.request request) store)) (start (.request request) store).store.agenda
    (notes ++ note (.request request) store))
variable (arrived : ∀ debouncer agenda deadline notes, agenda.fireNext? deadline = none →
  Inv debouncer agenda notes → Inv debouncer (agenda.arrive deadline) notes)
variable (fired : ∀ debouncer agenda deadline id timer next notes,
  agenda.fireNext? deadline = some (id, timer, next) → Inv debouncer agenda notes →
  Inv (debouncer.fire next id).debouncer next notes)
variable (initial : Inv first.store.debouncer first.store.agenda [])

include noted calm outermost served arrived fired initial

/-- In a calm run, an invariant of the notes, of the agenda and of the debouncer with every call
recorded at once is kept if requests, the passing of time and firing timers keep it. The operation
that goes on, if one does, is the only one that is suspended. -/
theorem keeps_calm_frames :
    ∃ frame?, last.stack.map Suspended.frame = frame?.toList ∧
      Inv (last.store.debouncer.settled frame?) last.store.agenda notes := by
  have swept : ∀ store deadline count notes, Inv store.debouncer store.agenda notes →
      Inv (settle (sweep store deadline count)) (sweep store deadline count).store.agenda notes := by
    intro store deadline count notes kept
    rw [sweep]
    split
    · next absent => exact arrived _ _ _ _ absent kept
    · next id timer agenda found =>
        have after := fired _ _ _ _ _ _ _ found kept
        rw [settle, take, Turn.effect]
        dsimp only [Debouncer.fire, Debouncer.execute] at after ⊢
        split <;> exact after
  have passed : ∀ op store notes, Requesting.request? op = none →
      Inv store.debouncer store.agenda notes →
      Inv (settle (start op store)) (start op store).store.agenda (notes ++ note op store) := by
    intro op store notes other kept
    rw [note_of_other other, List.append_nil]
    cases op with
    | request request => simp [Requesting.request?] at other
    | now | policy | text => exact kept
    | advance delay =>
        cases delay with
        | error fault => exact kept
        | ok delay => exact swept store _ 0 notes kept
  refine noted.keeps_calm calm outermost
    (fun store frame? notes => Inv (store.debouncer.settled frame?) store.agenda notes) ?_ ?_
    initial
  · intro op store notes kept
    cases asks : Requesting.request? op with
    | none => exact passed op store notes asks kept
    | some request =>
        obtain rfl := Op.eq_of_request? asks
        exact served request store notes kept
  · intro frame value store notes kept
    cases frame with
    | serving tail => cases tail <;> exact kept
    | advancing deadline count => exact swept store deadline count notes kept

/-- The same without a word on what is suspended. -/
theorem keeps_calm :
    ∃ frame?, Inv (last.store.debouncer.settled frame?) last.store.agenda notes := by
  rcases keeps_calm_frames noted calm outermost Inv served arrived fired initial with
    ⟨frame?, _, kept⟩
  exact ⟨frame?, kept⟩

end KeepsCalm

theorem oneToTwo_inRange (leading : Bool) : (oneToTwo leading).InRange := by
  constructor
  · intro interval bounds
    obtain rfl := Option.some.inj bounds
    decide
  · intro interval last bounds limit
    obtain rfl := Option.some.inj bounds
    obtain rfl := Option.some.inj limit
    decide
  · intro idle given
    obtain rfl := Option.some.inj given
    decide

end DebouncerSession

end Debounce
