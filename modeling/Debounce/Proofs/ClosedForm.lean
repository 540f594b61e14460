import Debounce.Proofs.Calls
import Debounce.Proofs.Seconds
import Debounce.Proofs.Times

/-!
# The closed form of the execution time

The time of a timer is set by the call that opens the period and moved on by the calls that follow,
step by step. In a calm run it is one formula over the calls of the run: the delay of the first
call, or else the latest of the times that the later calls ask for, with the cap applied once.
-/

namespace Debounce

namespace Instant

variable {τ : Type} [Instant τ]

/-- The instants are equal as numbers. -/
def Same (a b : τ) : Prop := a ≤ b ∧ b ≤ a

/-- The latest of some instants. -/
def latest (first : τ) (rest : List τ) : τ := rest.foldl later first

theorem latest_append (first : τ) (rest more : List τ) :
    latest first (rest ++ more) = latest (latest first rest) more := by
  simp [latest]

variable [Lawful τ] {a b : τ}

theorem le_latest (rest : List τ) (comparable : a ≤ a) : a ≤ latest a rest := by
  induction rest generalizing a with
  | nil => exact comparable
  | cons next rest ih =>
      have ahead := le_later_left comparable next
      exact Lawful.le_trans ahead (ih (Lawful.le_right ahead))

theorem later_le_later (ordered : a ≤ b) (next : τ) : later a next ≤ later b next := by
  have comparable := Lawful.le_right ordered
  rw [later]
  split
  · next ahead => exact le_later_right comparable (Lawful.le_right (Lawful.le_of_lt ahead))
  · exact Lawful.le_trans ordered (le_later_left comparable next)

theorem latest_le_latest (rest : List τ) (ordered : a ≤ b) : latest a rest ≤ latest b rest := by
  induction rest generalizing a b with
  | nil => exact ordered
  | cons next rest ih => exact ih (later_le_later ordered next)

/-- The latest instant is the first one, or it is found among the others. -/
theorem latest_eq_or_le (rest : List τ) (a : τ) (comparable : b ≤ b) :
    latest a rest = a ∨ latest a rest ≤ latest b rest := by
  induction rest generalizing a b with
  | nil => exact .inl rfl
  | cons next rest ih =>
      have ahead := le_later_left comparable next
      rcases ih (later a next) (Lawful.le_right ahead) with first | covered
      · by_cases earlier : a < next
        · right
          have reached : later a next = next := if_pos earlier
          have number := Lawful.le_right (Lawful.le_of_lt earlier)
          calc latest a (next :: rest)
            _ = next := first.trans reached
            _ ≤ later b next := le_later_right comparable number
            _ ≤ latest b (next :: rest) := le_latest rest (Lawful.le_right ahead)
        · left
          exact first.trans (if_neg earlier)
      · exact .inr covered

/-- Moving on to a capped time keeps the formula for the latest capped time: what is asked for has
been covered before, or it is covered now. -/
theorem Same.later_capped {cap? : Option τ} {time first wanted before after : τ}
    (same : Same time (later first (capped cap? before))) (caps : ∀ cap, cap? = some cap → cap ≤ cap)
    (comparable : first ≤ first) (ahead : before ≤ after) (covers : wanted ≤ after)
    (tight : after = before ∨ after ≤ wanted) :
    Same (later time (capped cap? wanted)) (later first (capped cap? after)) := by
  have cappedBefore := capped_le_capped caps ahead
  have cappedWanted := capped_le_capped caps covers
  have waits : capped cap? after ≤ later first (capped cap? after) :=
    le_later_right comparable (Lawful.le_right cappedBefore)
  have begins : first ≤ later first (capped cap? before) := le_later_left comparable _
  have moves : time ≤ later time (capped cap? wanted) :=
    le_later_left (Lawful.le_left same.1) _
  constructor
  · apply later_le
    · refine Lawful.le_trans same.1 (later_le (le_later_left comparable _) ?_)
      exact Lawful.le_trans cappedBefore waits
    · exact Lawful.le_trans cappedWanted waits
  · apply later_le
    · exact Lawful.le_trans begins (Lawful.le_trans same.2 moves)
    · rcases tight with unchanged | reached
      · rw [unchanged]
        refine Lawful.le_trans ?_ (Lawful.le_trans same.2 moves)
        exact le_later_right comparable (Lawful.le_left cappedBefore)
      · refine Lawful.le_trans (capped_le_capped caps reached) ?_
        exact le_later_right (Lawful.le_left same.1) (Lawful.le_left cappedWanted)

/-- Moving a time on, again and again, to the latest capped time that is asked for is the same as
applying the cap once. -/
theorem Same.later_latest {cap? : Option τ} {time first least : τ} {asked more : List τ}
    (same : Same time (later first (capped cap? (latest least asked))))
    (caps : ∀ cap, cap? = some cap → cap ≤ cap) (comparable : first ≤ first)
    (earliest : least ≤ least) :
    Same (later time (capped cap? (latest least more)))
      (later first (capped cap? (latest least (asked ++ more)))) := by
  have waits := le_latest asked earliest
  rw [latest_append]
  apply same.later_capped caps comparable
  · exact le_latest more (Lawful.le_right waits)
  · exact latest_le_latest more waits
  · exact latest_eq_or_le more _ earliest

end Instant

section Formula

variable {τ : Type} [Instant τ]

/-- Of some calls in their order, those whose gap from the call before is not the idle time. -/
def spread (idle previous : τ) (instants : List τ) : List τ :=
  match instants with
  | [] => []
  | instant :: rest =>
      if Instant.near (instant - previous) idle then spread idle instant rest
      else instant :: spread idle instant rest

/-- The times that the later calls of a period ask for. -/
def asked (settings : Settings) (opening : τ) (later : List τ) : List τ :=
  match settings.idleTime with
  | none => []
  | some idle => (spread idle.seconds opening later).map (· + idle.seconds)

/-- The delay that a period starts with: the least spacing, or the idle time if that is longer and
an earlier call is not that long ago. -/
def firstSpan (settings : Settings) (interval : Interval) (earlier : List τ) (opening : τ) : τ :=
  match settings.idleTime with
  | none => interval.begin.seconds
  | some idle =>
      if ∃ call ∈ earlier, opening - call < idle.seconds then
        Instant.later interval.begin.seconds idle.seconds
      else interval.begin.seconds

/-- The time of a timer, from the calls before its period, the call that opened it and the later
calls. -/
def closedForm (settings : Settings) (interval : Interval) (earlier : List τ) (opening : τ)
    (later : List τ) : τ :=
  Instant.later (opening + firstSpan settings interval earlier opening)
    (Instant.capped (interval.limit?.map fun last => opening + last.seconds)
      (Instant.latest (opening + interval.begin.seconds) (asked settings opening later)))

theorem spread_append (idle previous : τ) (instants more : List τ) :
    spread idle previous (instants ++ more) =
      spread idle previous instants ++ spread idle (instants.getLast?.getD previous) more := by
  induction instants generalizing previous with
  | nil => rfl
  | cons instant rest ih =>
      simp only [List.cons_append, spread, ih, List.getLast?_cons, Option.getD_some]
      split <;> rfl

theorem asked_append (settings : Settings) (opening : τ) (later more : List τ) :
    asked settings opening (later ++ more) =
      asked settings opening later ++ asked settings (later.getLast?.getD opening) more := by
  simp only [asked]
  cases settings.idleTime with
  | none => rfl
  | some idle => simp only [spread_append, List.map_append]

/-- The delay that a period starts with is a duration of the policy. -/
theorem firstSpan_eq_seconds {settings : Settings} {interval : Interval}
    (bounds : settings.interval = some interval) (inRange : settings.InRange) (earlier : List τ)
    (opening : τ) :
    ∃ duration : Duration, duration.InRange ∧
      firstSpan settings interval earlier opening = duration.seconds := by
  have least := inRange.begin interval bounds
  rw [firstSpan]
  cases given : settings.idleTime with
  | none => exact ⟨interval.begin, least, rfl⟩
  | some idle =>
      dsimp only
      split
      · rw [Instant.later]
        split
        · exact ⟨idle, inRange.idleTime idle given, rfl⟩
        · exact ⟨interval.begin, least, rfl⟩
      · exact ⟨interval.begin, least, rfl⟩

end Formula

/-- The instants lie in the past, and none of them is later than the last one. -/
def Past {τ : Type} [Instant τ] (instants : List τ) (now : τ) : Prop :=
  ∀ last, instants.getLast? = some last → last ≤ now ∧ ∀ instant ∈ instants, instant ≤ last

namespace Past

variable {τ : Type} [Instant τ] [Instant.Lawful τ] {instants : List τ} {now next : τ}

theorem later (past : Past instants now) (ahead : now ≤ next) : Past instants next := by
  intro last found
  rcases past last found with ⟨before, others⟩
  exact ⟨Instant.Lawful.le_trans before ahead, others⟩

theorem concat (past : Past instants now) (clock : now ≤ now) : Past (instants ++ [now]) now := by
  intro last found
  obtain rfl : now = last := by simpa using found
  refine ⟨clock, ?_⟩
  intro instant member
  rcases List.mem_append.mp member with earlier | present
  · rcases Option.isSome_iff_exists.mp (List.getLast?_isSome.mpr (List.ne_nil_of_mem earlier)) with
      ⟨previous, found⟩
    rcases past previous found with ⟨before, others⟩
    exact Instant.Lawful.le_trans (others instant earlier) before
  · exact List.mem_singleton.mp present ▸ clock

end Past

/-! ## Steps -/

section Steps

variable {τ ω : Type} [Instant τ] {debouncer : Debouncer τ ω} {interval : Interval}
variable {earlier later : List τ} {opening now time : τ}

/-- The delay of a new timer is the one of the formula, if the last call is recorded and the earlier
ones lie before it. -/
theorem firstDelay_eq_firstSpan [Instant.LawfulGaps τ]
    (bounds : debouncer.settings.interval = some interval)
    (recorded : debouncer.lastCall = earlier.getLast?)
    (past : Past earlier now) :
    debouncer.firstDelay now = firstSpan debouncer.settings interval earlier now := by
  rw [Debouncer.firstDelay, Debouncer.begin_eq bounds, Debouncer.idleTime?, firstSpan, recorded]
  cases debouncer.settings.idleTime with
  | none => rfl
  | some idle =>
      cases found : earlier.getLast? with
      | none =>
          rw [List.getLast?_eq_none_iff.mp found]
          simp
      | some last =>
          have member := List.mem_of_getLast? found
          rcases past last found with ⟨before, others⟩
          have closest : now - last < idle.seconds ↔
              ∃ call ∈ earlier, now - call < idle.seconds := by
            constructor
            · intro near
              exact ⟨last, member, near⟩
            · rintro ⟨call, called, near⟩
              exact Instant.LawfulGaps.gap_lt (others call called) before near
          simp only [Option.map_some, closest]

/-- What a call asks for before it is capped, in the terms of the formula. -/
theorem wanted_eq_latest {previous : τ} (bounds : debouncer.settings.interval = some interval)
    (recorded : debouncer.lastCall = some previous) :
    debouncer.wanted opening now =
      Instant.latest (opening + interval.begin.seconds)
        (asked debouncer.settings previous [now]) := by
  rw [Debouncer.wanted, Debouncer.begin_eq bounds, Debouncer.idleTime?, asked]
  cases debouncer.settings.idleTime with
  | none => rfl
  | some idle =>
      simp only [Option.map_some, Debouncer.gapIsIdleTime, recorded, spread]
      split <;> rfl

variable [Instant.Lawful τ]

/-- The formula holds of a new timer. -/
theorem Instant.Same.opened (bounds : debouncer.settings.interval = some interval)
    (inRange : debouncer.settings.InRange) (comparable : opening ≤ opening)
    (delay : debouncer.firstDelay opening = firstSpan debouncer.settings interval earlier opening) :
    Instant.Same (opening + debouncer.firstDelay opening)
      (closedForm debouncer.settings interval earlier opening []) := by
  have longer := Debouncer.add_begin_le_add_firstDelay bounds inRange comparable opening
  have nothing : asked debouncer.settings opening [] = [] := by
    rw [asked]
    cases debouncer.settings.idleTime <;> rfl
  rw [closedForm, nothing, ← delay]
  have comparableDelay := Instant.Lawful.le_right longer
  constructor
  · exact Instant.le_later_left comparableDelay _
  · apply Instant.later_le comparableDelay
    exact Instant.Lawful.le_trans (Instant.capped_le _ (Instant.Lawful.le_left longer)) longer

/-- The formula goes on holding of a timer when a further call is made. -/
theorem Instant.Same.called
    (same : Instant.Same time (closedForm debouncer.settings interval earlier opening later))
    (bounds : debouncer.settings.interval = some interval) (inRange : debouncer.settings.InRange)
    (comparable : opening ≤ opening)
    (recorded : debouncer.lastCall = some (later.getLast?.getD opening)) :
    Instant.Same (Instant.later time (debouncer.extension opening now))
      (closedForm debouncer.settings interval earlier opening (later ++ [now])) := by
  have earliest : opening + interval.begin.seconds ≤ opening + interval.begin.seconds :=
    Instant.Lawful.add_seconds comparable (inRange.begin interval bounds)
  have caps : ∀ cap, (interval.limit?.map fun last => opening + last.seconds) = some cap →
      cap ≤ cap := by
    intro cap limited
    rcases Option.map_eq_some_iff.mp limited with ⟨last, limit, rfl⟩
    exact Instant.Lawful.add_seconds comparable (inRange.limit interval last bounds limit)
  have first : opening + firstSpan debouncer.settings interval earlier opening ≤
      opening + firstSpan debouncer.settings interval earlier opening := by
    rcases firstSpan_eq_seconds bounds inRange earlier opening with ⟨duration, short, span⟩
    rw [span]
    exact Instant.Lawful.add_seconds comparable short
  rw [Debouncer.extension_eq_capped bounds, wanted_eq_latest bounds recorded, closedForm,
    asked_append]
  exact Instant.Same.later_latest same caps first earliest

end Steps

/-! ## Runs -/

namespace DebouncerSession

variable {τ : Type} [Instant τ] {settings : Settings} {interval : Interval}

/-- The formula holds of the pending timer. The last call is the last one that was noted, and the
others lie before it. -/
structure Timed (settings : Settings) (interval : Interval)
    (debouncer : Debouncer τ (Work (Op τ) (Reply τ))) (agenda : Agenda τ Unit)
    (notes : List (Note τ)) : Prop where
  policy : debouncer.settings = settings
  coherent : debouncer.Coherent agenda
  clock : agenda.now ≤ agenda.now
  recorded : debouncer.lastCall = (instants notes).getLast?
  past : Past (instants notes) agenda.now
  timed : ∀ id time stamp, Debouncer.Awaits debouncer agenda id time stamp →
    ∃ before opening since, Period notes before opening since ∧ opening.instant = stamp ∧
      stamp ≤ stamp ∧ Instant.Same time
        (closedForm settings interval (instants before) stamp (since.map Call.instant))

namespace Timed

variable {debouncer : Debouncer τ (Work (Op τ) (Reply τ))} {agenda : Agenda τ Unit}
variable {store : Store τ} {notes : List (Note τ)}

theorem new (name : Value) {clock : τ} (edge : settings.leading = false)
    (comparable : clock ≤ clock) :
    Timed settings interval (.new settings name clock) { now := clock } [] where
  policy := by simp [Debouncer.new]
  coherent := Debouncer.Coherent.new settings name
  clock := comparable
  recorded := by simp [Debouncer.new, Debouncer.rewound, edge, instants, calls]
  past := by simp [Past, instants, calls]
  timed := by
    intro id time stamp awaits
    have held := awaits.timer
    simp [Debouncer.new] at held

variable [Instant.LawfulGaps τ]

theorem awaited {id : TimerId} {time stamp : τ} {more : List (Note τ)}
    (timed : Timed settings interval store.debouncer store.agenda notes)
    (bounds : settings.interval = some interval) (inRange : settings.InRange)
    (awaited : Awaited store id time stamp more) :
    ∃ before opening since, Period (notes ++ more) before opening since ∧
      opening.instant = stamp ∧ stamp ≤ stamp ∧ Instant.Same time
        (closedForm settings interval (instants before) stamp (since.map Call.instant)) := by
  obtain rfl := timed.policy
  cases awaited with
  | same awaits =>
      rw [List.append_nil]
      exact timed.timed id time stamp awaits
  | opened stamped delayed =>
      subst stamped delayed
      have delay := firstDelay_eq_firstSpan bounds timed.recorded timed.past
      exact ⟨notes, _, [], .of_opened notes rfl, rfl, timed.clock,
        .opened bounds inRange timed.clock delay⟩
  | @continued earlier awaits moved =>
      subst moved
      rcases timed.timed id earlier stamp awaits with
        ⟨before, opening, since, period, rfl, comparable, same⟩
      have recorded : store.debouncer.lastCall =
          some ((since.map Call.instant).getLast?.getD opening.instant) := by
        rw [timed.recorded, period.instants, List.getLast?_append, List.getLast?_cons]
        rfl
      refine ⟨before, opening, _, period.call ⟨rfl, rfl⟩, rfl, comparable, ?_⟩
      rw [List.map_append]
      exact same.called bounds inRange comparable recorded

theorem served (timed : Timed settings interval store.debouncer store.agenda notes)
    (bounds : settings.interval = some interval) (inRange : settings.InRange)
    (edge : settings.leading = false) (request : Request (Work (Op τ) (Reply τ))) :
    Timed settings interval (settle (start (.request request) store))
      (start (.request request) store).store.agenda (notes ++ note (.request request) store) := by
  have debounced : store.debouncer.settings.passthrough = false := by
    simp [Settings.passthrough, timed.policy, bounds]
  have trailing : store.debouncer.settings.leading = false := timed.policy ▸ edge
  constructor
  · exact (settle_settings request).trans timed.policy
  · exact coherent_settle timed.coherent request
  · rw [now_request]
    exact timed.clock
  · rw [settle_lastCall debounced trailing, timed.recorded, instants_append, List.getLast?_append]
  · rw [now_request, instants_append]
    rcases instants_note (.request request) store with nothing | now
    · rw [nothing, List.append_nil]
      exact timed.past
    · rw [now]
      exact timed.past.concat timed.clock
  · intro id time stamp awaits
    exact timed.awaited bounds inRange
      (awaited_of_request debounced trailing request awaits.of_settled)

/-- What lies in the past stays there. -/
theorem later {other : Debouncer τ (Work (Op τ) (Reply τ))} {next : Agenda τ Unit}
    (timed : Timed settings interval debouncer agenda notes) (policy : other.settings = settings)
    (coherent : other.Coherent next) (ahead : agenda.now ≤ next.now)
    (recorded : other.lastCall = debouncer.lastCall)
    (awaits : ∀ id time stamp, Debouncer.Awaits other next id time stamp →
      Debouncer.Awaits debouncer agenda id time stamp) :
    Timed settings interval other next notes where
  policy := policy
  coherent := coherent
  clock := Instant.Lawful.le_right ahead
  recorded := recorded.trans timed.recorded
  past := timed.past.later ahead
  timed := by
    intro id time stamp still
    exact timed.timed id time stamp (awaits id time stamp still)

theorem arrived (timed : Timed settings interval debouncer agenda notes) (deadline : τ) :
    Timed settings interval debouncer (agenda.arrive deadline) notes := by
  have ahead : agenda.now ≤ (agenda.arrive deadline).now :=
    Instant.le_later_left timed.clock deadline
  refine timed.later timed.policy (timed.coherent.arrive deadline) ahead rfl ?_
  intro id time stamp awaits
  exact ⟨awaits.timer, awaits.status, awaits.stamped⟩

theorem fired {deadline : τ} {id : TimerId} {timer : Timer τ Unit} {next : Agenda τ Unit}
    (timed : Timed settings interval debouncer agenda notes)
    (found : agenda.fireNext? deadline = some (id, timer, next)) :
    Timed settings interval (debouncer.fire next id).debouncer next notes := by
  have held := (timed.coherent.timer_of_fireNext? found).1
  have free := Debouncer.fire_timer next held
  have ahead : agenda.now ≤ next.now := by
    rcases Agenda.fireNext?_eq_some found with ⟨_, _, _, rfl⟩
    exact Instant.le_later_left timed.clock _
  refine timed.later ((Debouncer.fire_settings id).trans timed.policy)
    (timed.coherent.fire found) ahead (Debouncer.fire_lastCall id) ?_
  intro other time stamp awaits
  have still := awaits.timer
  simp [free] at still

end Timed

/-- In a calm run on the trailing edge, the time of a pending timer is the closed form over the
calls of the run: those before the period, the call that opened it and those since. -/
theorem executionTime_closed_form [Instant.LawfulGaps τ] (settings : Settings)
    (interval : Interval) (name : Value) (clock : τ) (script : Script (Op τ) (Reply τ))
    (state : State τ) (notes : List (Note τ)) (time : τ)
    (bounds : settings.interval = some interval) (inRange : settings.InRange)
    (edge : settings.leading = false) (comparable : clock ≤ clock)
    (noted : machine.Noted note (State.initial settings name clock script) state notes)
    (calm : machine.Calm (State.initial settings name clock script) state)
    (status : state.store.debouncer.timerStatus? state.store.agenda = some ⟨true, time⟩) :
    ∃ before opening since, Period notes before opening since ∧
      Instant.Same time
        (closedForm settings interval (instants before) opening.instant
          (since.map Call.instant)) := by
  rcases keeps_calm noted calm rfl (Timed settings interval)
    (fun request store notes timed => timed.served bounds inRange edge request)
    (fun debouncer agenda deadline notes _ timed => timed.arrived deadline)
    (fun debouncer agenda deadline id timer next notes found timed => timed.fired found)
    (.new name edge comparable) with ⟨frame?, timed⟩
  have shown : (state.store.debouncer.settled frame?).timerStatus? state.store.agenda =
      some ⟨true, time⟩ := by
    rw [Debouncer.settled_eq]
    exact status
  rcases Debouncer.awaits_of_timerStatus? timed.coherent.stamped shown with ⟨id, stamp, awaits⟩
  rcases timed.timed id time stamp awaits with ⟨before, opening, since, period, rfl, _, same⟩
  exact ⟨before, opening, since, period, same⟩

/-- A call half a second into the period asks for ten seconds more, and the cap allows two seconds
in all. -/
theorem executionTime_closed_form_of_two :
    let first := State.initial (oneToTwo false) .null (0 : Float)
      (.before [.request (.call (some (.resting [0]))), .advance (.ok 0.5), .request (.call none)]
        (.done (.ok .nothing)))
    let state := machine.run 3 first
    let notes := machine.notes note 3 first
    machine.Noted note first state notes ∧ machine.Calm first state ∧
      state.store.debouncer.timerStatus? state.store.agenda = some ⟨true, 2⟩ ∧
      ∃ before opening since, Period notes before opening since ∧
        Instant.Same 2
          (closedForm (oneToTwo false) .oneToTwo (instants before) opening.instant
            (since.map Call.instant)) := by
  intro first state notes
  have noted := Machine.noted_run machine note 3 first
  have ends : machine.endsCalmly 4 first = true := by decide +kernel
  have calm := Machine.calm_of_endsCalmly ends state
  have status : state.store.debouncer.timerStatus? state.store.agenda = some ⟨true, 2⟩ := by
    decide +kernel
  have comparable : (0 : Float) ≤ 0 := by decide +kernel
  exact ⟨noted, calm, status, executionTime_closed_form (oneToTwo false) .oneToTwo _ _ _ state notes
    2 rfl (oneToTwo_inRange false) rfl comparable noted calm status⟩

end DebouncerSession

end Debounce
