import Debounce.Proofs.Calls
import Debounce.Proofs.Times

/-!
# The leading edge and its history

On the leading edge the debouncer keeps two instants, which its making and a reset move back into
the past. What it does with a call is a matter of the calls before it alone: the first call since
the last reset is executed, and another one if enough time has passed since the call that was
executed last and the stream has settled, or the end of the interval is reached. This holds with
exact seconds, where moving back and forth loses nothing.
-/

namespace Debounce

section Reference

variable {τ : Type}

/-- The call that was executed last. -/
def latestExecuted? (notes : List (Note τ)) : Option (Call τ) :=
  ((calls notes).filter Call.executed).getLast?

/-- No call has been made since the beginning or the last reset. -/
def Fresh (notes : List (Note τ)) : Prop := ∀ call, notes.getLast? ≠ some (.call call)

theorem fresh_or_called (notes : List (Note τ)) :
    Fresh notes ∨ ∃ call, notes.getLast? = some (.call call) := by
  cases last : notes.getLast? with
  | none => exact .inl (by simp [Fresh, last])
  | some note =>
      cases note with
      | reset => exact .inl (by simp [Fresh, last])
      | call call => exact .inr ⟨call, rfl⟩

/-- A call at this instant is executed, by the calls and resets before it: it is the first call, or
the least spacing has passed since the call that was executed last, and the idle time has passed
since the call before this one, or there is none, or the greatest spacing has passed. -/
def LetThrough [Instant τ] (settings : Settings) (interval : Interval) (before : List (Note τ))
    (now : τ) : Prop :=
  Fresh before ∨
    ∃ executed previous, latestExecuted? before = some executed ∧
      before.getLast? = some (.call previous) ∧
      executed.instant + interval.begin.seconds ≤ now ∧
      (settings.idleTime = none ∨
        (∃ idle, settings.idleTime = some idle ∧ previous.instant + idle.seconds ≤ now) ∨
        ∃ last, interval.limit? = some last ∧ executed.instant + last.seconds ≤ now)

@[simp] theorem latestExecuted?_executed (notes : List (Note τ)) {call : Call τ}
    (executed : call.executed = true) : latestExecuted? (notes ++ [.call call]) = some call := by
  simp [latestExecuted?, executed]

@[simp] theorem latestExecuted?_ignored (notes : List (Note τ)) {call : Call τ}
    (ignored : call.executed = false) :
    latestExecuted? (notes ++ [.call call]) = latestExecuted? notes := by
  simp [latestExecuted?, ignored]

end Reference

/-! ## The gate -/

namespace Debouncer

variable {τ ω : Type} [Instant τ] {debouncer : Debouncer τ ω} {interval : Interval}
variable {stamp call now : τ}

theorem idle_iff (recorded : debouncer.lastCall = some call) :
    debouncer.idle now = true ↔ debouncer.settings.idleTime = none ∨
      ∃ idle, debouncer.settings.idleTime = some idle ∧ call + idle.seconds ≤ now := by
  rw [idle, idleTime?, recorded]
  cases debouncer.settings.idleTime <;> simp

theorem maxIntervalReached_iff (bounds : debouncer.settings.interval = some interval)
    (stamped : debouncer.leadingTimestamp = some stamp) :
    debouncer.maxIntervalReached now = true ↔
      ∃ last, interval.limit? = some last ∧ stamp + last.seconds ≤ now := by
  rw [maxIntervalReached, limit?_eq bounds, stamped]
  cases interval.limit? <;> simp

theorem tooSoon_eq_false_iff {debouncer : Debouncer Rat ω} {stamp now : Rat}
    (bounds : debouncer.settings.interval = some interval)
    (stamped : debouncer.leadingTimestamp = some stamp) :
    debouncer.tooSoon now = false ↔ stamp + interval.begin.seconds ≤ now := by
  rw [tooSoon, begin_eq bounds, stamped]
  exact decide_eq_false_iff_not.trans Rat.not_lt

end Debouncer

section Gate

variable {ω : Type} {settings : Settings} {interval : Interval} {debouncer : Debouncer Rat ω}
variable {notes : List (Note Rat)} {now : Rat}

/-- The two instants of a debouncer on the leading edge, in the terms of the calls so far. -/
inductive Gate (settings : Settings) (interval : Interval) (debouncer : Debouncer Rat ω)
    (notes : List (Note Rat)) (now : Rat) : Prop where
  /-- There were no calls since the instants were moved back. -/
  | fresh {begun : Rat} :
      Fresh notes → begun ≤ now →
      debouncer.leadingTimestamp =
        some (begun - interval.begin.seconds - Debouncer.rewind) →
      debouncer.lastCall =
        some (begun - interval.begin.seconds - Debouncer.rewind -
          (settings.idleTime.map Duration.seconds).getD Instant.zero) →
      Gate settings interval debouncer notes now
  | called {executed previous : Call Rat} :
      latestExecuted? notes = some executed → notes.getLast? = some (.call previous) →
      debouncer.leadingTimestamp = some executed.instant →
      debouncer.lastCall = some previous.instant →
      Gate settings interval debouncer notes now

/-- The debouncer lets a call through. -/
def Debouncer.Admits (debouncer : Debouncer Rat ω) (now : Rat) : Prop :=
  debouncer.tooSoon now = false ∧
    (debouncer.idle now = true ∨ debouncer.maxIntervalReached now = true)

/-- The gate does not change while the clock goes on. -/
theorem Gate.later {other : Debouncer Rat ω} {next : Rat}
    (gate : Gate settings interval debouncer notes now) (ahead : now ≤ next)
    (stamp : other.leadingTimestamp = debouncer.leadingTimestamp)
    (recorded : other.lastCall = debouncer.lastCall) :
    Gate settings interval other notes next := by
  cases gate with
  | fresh first past stamped called =>
      exact .fresh first (Rat.le_trans past ahead) (stamp.trans stamped) (recorded.trans called)
  | called latest last stamped called =>
      exact .called latest last (stamp.trans stamped) (recorded.trans called)

/-- Moving the instants back opens the gate. -/
theorem Gate.rewound (debouncer : Debouncer Rat ω) (now : Rat) (first : Fresh notes)
    (bounds : debouncer.settings.interval = some interval)
    (edge : debouncer.settings.leading = true) :
    Gate debouncer.settings interval (debouncer.rewound now) notes now := by
  rw [Debouncer.rewound_eq bounds edge]
  exact .fresh first Rat.le_refl rfl rfl

theorem Debouncer.rewind_eq : (Debouncer.rewind : Rat) = 1 := by decide +kernel

theorem Duration.seconds_nonneg {duration : Duration} (nonneg : Duration.zero ≤ duration) :
    (0 : Rat) ≤ duration.seconds := by
  have ordered : (Duration.zero.seconds : Rat) ≤ duration.seconds :=
    Instant.Lawful.ofMicros_le nonneg
  have empty : (Duration.zero.seconds : Rat) = 0 := by decide +kernel
  rwa [empty] at ordered

/-- The debouncer lets a call through that the history lets through. -/
theorem Gate.admits_iff (gate : Gate settings interval debouncer notes now)
    (policy : debouncer.settings = settings) (bounds : settings.interval = some interval) :
    debouncer.Admits now ↔ LetThrough settings interval notes now := by
  subst policy
  cases gate with
  | @fresh begun first past stamped recorded =>
      have admitted : debouncer.Admits now := by
        have least := Duration.seconds_nonneg interval.begin_nonneg
        rw [Debouncer.rewind_eq] at stamped recorded
        constructor
        · rw [Debouncer.tooSoon_eq_false_iff bounds stamped]
          grind
        · left
          rw [Debouncer.idle_iff recorded]
          cases given : debouncer.settings.idleTime with
          | none => exact .inl rfl
          | some idle =>
              right
              refine ⟨idle, rfl, ?_⟩
              rw [Option.map_some, Option.getD_some]
              grind
      exact ⟨fun _ => .inl first, fun _ => admitted⟩
  | @called executed previous latest last stamped recorded =>
      have later : ¬ Fresh notes := fun first => first previous last
      rw [Debouncer.Admits, Debouncer.tooSoon_eq_false_iff bounds stamped,
        Debouncer.idle_iff recorded, Debouncer.maxIntervalReached_iff bounds stamped, or_assoc]
      constructor
      · rintro ⟨spaced, opens⟩
        exact .inr ⟨executed, previous, latest, last, spaced, opens⟩
      · rintro (first | ⟨other, before, sameLatest, sameLast, spaced, opens⟩)
        · exact absurd first later
        · obtain rfl := Option.some.inj (latest.symm.trans sameLatest)
          obtain rfl := Note.call.inj (Option.some.inj (last.symm.trans sameLast))
          exact ⟨spaced, opens⟩

/-- A call is executed if the history lets it through, and the two instants go on telling the
history. -/
theorem Gate.leadingCall {σ : Type} {scheduler : σ} {turn : Turn Rat σ ω}
    (gate : Gate settings interval debouncer notes now) (policy : debouncer.settings = settings)
    (bounds : settings.interval = some interval)
    (form : Debouncer.LeadingCall debouncer scheduler now turn) :
    ((turn.call now).executed = true ↔ LetThrough settings interval notes now) ∧
      Gate settings interval { turn.debouncer with lastCall := some now }
        (notes ++ [.call (turn.call now)]) now := by
  have admits := gate.admits_iff policy bounds
  cases form with
  | executed late opens =>
      have through := admits.mp ⟨late, opens⟩
      constructor
      · exact ⟨fun _ => through, fun _ => rfl⟩
      · exact .called (latestExecuted?_executed notes rfl) List.getLast?_concat rfl rfl
  | ignored closed =>
      have refused : ¬ LetThrough settings interval notes now := by
        intro through
        rcases admits.mpr through with ⟨late, opens⟩
        rcases closed with soon | ⟨busy, below⟩
        · simp [late] at soon
        · simp [busy, below] at opens
      constructor
      · exact ⟨fun executed => absurd executed Bool.false_ne_true,
          fun through => absurd through refused⟩
      · cases gate with
        | fresh first => exact absurd (.inl first) refused
        | called latest last stamped recorded =>
            exact .called ((latestExecuted?_ignored notes rfl).trans latest) List.getLast?_concat
              stamped rfl

/-- With a cap, a call at or after the cap is let through. -/
theorem letThrough_of_limit {last : Duration} {executed : Call Rat}
    (limit : interval.limit? = some last) (latest : latestExecuted? notes = some executed)
    (reached : executed.instant + last.seconds ≤ now) :
    LetThrough settings interval notes now := by
  rcases fresh_or_called notes with first | ⟨previous, called⟩
  · exact .inl first
  · have ordered : (interval.begin.seconds : Rat) ≤ last.seconds :=
      Instant.Lawful.ofMicros_le (interval.begin_le_limit last limit)
    refine .inr ⟨executed, previous, latest, called, ?_, .inr (.inr ⟨last, limit, reached⟩)⟩
    grind

end Gate

/-! ## Runs -/

namespace DebouncerSession

variable {settings : Settings} {interval : Interval}

/-- Each call so far was executed if the calls and resets before it let it through. -/
def Judged (settings : Settings) (interval : Interval) (notes : List (Note Rat)) : Prop :=
  ∀ before call after, notes = before ++ .call call :: after →
    (call.executed = true ↔ LetThrough settings interval before call.instant)

theorem Judged.concat {notes : List (Note Rat)} (judged : Judged settings interval notes)
    {latest : Note Rat} (fair : ∀ call, latest = .call call →
      (call.executed = true ↔ LetThrough settings interval notes call.instant)) :
    Judged settings interval (notes ++ [latest]) := by
  intro before call after split
  rcases List.eq_nil_or_concat after with rfl | ⟨rest, last, rfl⟩
  · rcases List.append_inj' split rfl with ⟨rfl, same⟩
    exact fair call (List.singleton_inj.mp same)
  · rw [List.concat_eq_append, ← List.cons_append, ← List.append_assoc] at split
    exact judged before call rest (List.append_inj' split rfl).1

/-- On the leading edge, the instants that the debouncer keeps and what it did so far are determined
by the calls and resets. -/
structure Gated (settings : Settings) (interval : Interval)
    (debouncer : Debouncer Rat (Work (Op Rat) (Reply Rat))) (agenda : Agenda Rat Unit)
    (notes : List (Note Rat)) : Prop where
  policy : debouncer.settings = settings
  coherent : debouncer.Coherent agenda
  gate : Gate settings interval debouncer notes agenda.now
  judged : Judged settings interval notes

namespace Gated

variable {debouncer : Debouncer Rat (Work (Op Rat) (Reply Rat))} {agenda : Agenda Rat Unit}
variable {store : Store Rat} {notes : List (Note Rat)}

theorem new (name : Value) (clock : Rat) (bounds : settings.interval = some interval)
    (edge : settings.leading = true) :
    Gated settings interval (.new settings name clock) { now := clock } [] where
  policy := by simp [Debouncer.new]
  coherent := Debouncer.Coherent.new settings name
  gate := by
    have first : Fresh ([] : List (Note Rat)) := by simp [Fresh]
    exact Gate.rewound { settings := settings, name := name } clock first bounds edge
  judged := by simp [Judged]

theorem later {other : Debouncer Rat (Work (Op Rat) (Reply Rat))} {next : Agenda Rat Unit}
    (gated : Gated settings interval debouncer agenda notes) (policy : other.settings = settings)
    (coherent : other.Coherent next) (ahead : agenda.now ≤ next.now)
    (stamp : other.leadingTimestamp = debouncer.leadingTimestamp)
    (recorded : other.lastCall = debouncer.lastCall) :
    Gated settings interval other next notes :=
  ⟨policy, coherent, gated.gate.later ahead stamp recorded, gated.judged⟩

theorem called {work? : Option (Work (Op Rat) (Reply Rat))} {work : Work (Op Rat) (Reply Rat)}
    (gated : Gated settings interval store.debouncer store.agenda notes)
    (bounds : settings.interval = some interval) (edge : settings.leading = true)
    (found : work?.or store.debouncer.work = some work) :
    Gated settings interval (settle (start (.request (.call work?)) store))
      (start (.request (.call work?)) store).store.agenda
      (notes ++ note (.request (.call work?)) store) := by
  have debounced : store.debouncer.settings.passthrough = false := by
    simp [Settings.passthrough, gated.policy, bounds]
  have policy := (settle_settings (.call work?)).trans gated.policy
  have coherent := coherent_settle gated.coherent (.call work?)
  have form := Debouncer.served_serve store.debouncer store.agenda () (.call work?)
  have ends := settle_call found debounced
  have noted := note_call found
  generalize store.debouncer.serve store.agenda () (.call work?) = turn at form ends noted
  have step : ((turn.call store.agenda.now).executed = true ↔
        LetThrough settings interval notes store.agenda.now) ∧
      Gate settings interval { turn.debouncer with lastCall := some store.agenda.now }
        (notes ++ [.call (turn.call store.agenda.now)]) store.agenda.now := by
    cases form with
    | refusedCall absent => simp [absent] at found
    | passedOn _ through => simp [debounced] at through
    | trailing _ _ trails _ => simp [gated.policy, edge] at trails
    | @leading _ held _ _ _ _ call =>
        have gate : Gate settings interval { store.debouncer with work := some held } notes
            store.agenda.now := gated.gate.later Rat.le_refl rfl rfl
        exact gate.leadingCall gated.policy bounds call
  rcases step with ⟨verdict, gate⟩
  refine ⟨policy, coherent, ?_, ?_⟩
  · rw [ends, noted, now_request]
    exact gate
  · rw [noted]
    refine gated.judged.concat ?_
    rintro call ⟨⟩
    exact verdict

theorem served (gated : Gated settings interval store.debouncer store.agenda notes)
    (bounds : settings.interval = some interval) (edge : settings.leading = true)
    (request : Request (Work (Op Rat) (Reply Rat))) :
    Gated settings interval (settle (start (.request request) store))
      (start (.request request) store).store.agenda (notes ++ note (.request request) store) := by
  have policy := (settle_settings request).trans gated.policy
  have coherent := coherent_settle gated.coherent request
  have ahead : store.agenda.now ≤ (start (.request request) store).store.agenda.now :=
    (now_request request store).symm ▸ Rat.le_refl
  cases request with
  | call work? =>
      cases found : work?.or store.debouncer.work with
      | some work => exact gated.called bounds edge found
      | none =>
          rw [note_refused found, List.append_nil]
          have same := settle_refused found
          exact gated.later policy coherent ahead (by rw [same]) (by rw [same])
  | callNow =>
      have same : settle (start (.request .callNow) store) = store.debouncer := settle_callNow
      rw [show note (.request .callNow) store = [] from rfl, List.append_nil]
      exact gated.later policy coherent ahead (by rw [same]) (by rw [same])
  | flush =>
      rcases settle_flush store with ⟨timer, same⟩
      rw [show note (.request .flush) store = [] from rfl, List.append_nil]
      exact gated.later policy coherent ahead (by rw [same]) (by rw [same])
  | reset =>
      refine ⟨policy, coherent, ?_, gated.judged.concat (by simp)⟩
      have first : Fresh (notes ++ [.reset]) := by simp [Fresh]
      obtain rfl := gated.policy
      rw [settle_reset, now_request]
      exact Gate.rewound { store.debouncer with timer := none } _ first bounds edge

theorem arrived (gated : Gated settings interval debouncer agenda notes) (deadline : Rat) :
    Gated settings interval debouncer (agenda.arrive deadline) notes := by
  have ahead : agenda.now ≤ (agenda.arrive deadline).now :=
    Instant.le_later_left Rat.le_refl deadline
  exact gated.later gated.policy (gated.coherent.arrive deadline) ahead rfl rfl

/-- On the leading edge no timer is ever due. -/
theorem fireNext?_eq_none (gated : Gated settings interval debouncer agenda notes)
    (edge : settings.leading = true) (deadline : Rat) : agenda.fireNext? deadline = none := by
  have free := gated.coherent.timer_eq_none_of_leading (gated.policy ▸ edge)
  have holds : agenda.Holds none := free ▸ gated.coherent.holds
  exact holds.fireNext?_eq_none deadline

end Gated

/-- In a calm run on the leading edge with exact seconds, a call is executed if and only if the
calls and resets before it let it through. In particular, no call is ignored when the greatest
spacing has passed since the call that was executed last. -/
theorem executed_iff_letThrough (settings : Settings) (interval : Interval) (name : Value)
    (clock : Rat) (script : Script (Op Rat) (Reply Rat)) (state : State Rat)
    (notes before after : List (Note Rat)) (call : Call Rat)
    (bounds : settings.interval = some interval) (edge : settings.leading = true)
    (noted : machine.Noted note (State.initial settings name clock script) state notes)
    (calm : machine.Calm (State.initial settings name clock script) state)
    (made : notes = before ++ .call call :: after) :
    (call.executed = true ↔ LetThrough settings interval before call.instant) ∧
      (∀ last executed, interval.limit? = some last → latestExecuted? before = some executed →
        executed.instant + last.seconds ≤ call.instant → call.executed = true) := by
  rcases keeps_calm noted calm rfl (Gated settings interval)
    (fun request store notes gated => gated.served bounds edge request)
    (fun debouncer agenda deadline notes _ gated => gated.arrived deadline)
    (fun debouncer agenda deadline id timer next notes found gated =>
      absurd (gated.fireNext?_eq_none edge deadline) (by simp [found]))
    (.new name clock bounds edge) with ⟨frame?, gated⟩
  have verdict := gated.judged before call after made
  refine ⟨verdict, ?_⟩
  intro last executed limit latest reached
  exact verdict.mpr (letThrough_of_limit limit latest reached)

/-- Two calls are ignored, the second one because the stream has not settled; the next one is let
through at the end of the interval. -/
theorem executed_iff_letThrough_of_four :
    let first := State.initial (oneToTwo true) .null (0 : Rat)
      (.before
        [.request (.call (some (.resting [0]))), .advance (.ok (1 / 2)), .request (.call none),
          .advance (.ok 1), .request (.call none), .advance (.ok (1 / 2)), .request (.call none)]
        (.done (.ok .nothing)))
    let state := machine.run 8 first
    let notes := machine.notes note 8 first
    let before : List (Note Rat) :=
      [.call ⟨0, false, true⟩, .call ⟨1 / 2, false, false⟩, .call ⟨3 / 2, false, false⟩]
    machine.Noted note first state notes ∧ machine.Calm first state ∧
      notes = before ++ [.call ⟨2, false, true⟩] ∧
      LetThrough (oneToTwo true) .oneToTwo before 2 := by
  intro first state notes before
  have noted := Machine.noted_run machine note 8 first
  have ends : machine.endsCalmly 12 first = true := by decide +kernel
  have calm := Machine.calm_of_endsCalmly ends state
  have made : notes = before ++ [.call ⟨2, false, true⟩] := by decide +kernel
  have both := executed_iff_letThrough (oneToTwo true) .oneToTwo _ _ _ state notes before [] _ rfl rfl
    noted calm made
  exact ⟨noted, calm, made, both.1.mp rfl⟩

end DebouncerSession

end Debounce
