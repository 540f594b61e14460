import Debounce.Proofs.Calls
import Debounce.Proofs.Seconds
import Debounce.Proofs.Times

/-!
# The cap on periods

The end of the interval caps how far the calls of a period can move its timer. The delay that the
timer starts with is not capped: where the call that opens the period comes within the idle time of
an earlier call, the timer starts with the idle time, even if that is longer than the end of the
interval. So a pending timer is set for an instant between the beginning and the end of the
interval after the call that opened the period, but for this case.
-/

namespace Debounce

section Bounds

variable {τ ω : Type} [Instant τ]

/-- A time within the interval after the opening of a period, or the end of an idle time that is
longer than the interval, if an earlier call was not that long ago. -/
structure Bounded (settings : Settings) (interval : Interval) (earlier : List τ)
    (opening time : τ) : Prop where
  begins : opening + interval.begin.seconds ≤ time
  ends : ∀ last, interval.limit? = some last →
    time ≤ opening + last.seconds ∨
      ∃ idle, settings.idleTime = some idle ∧ ¬ idle ≤ last ∧
        (∃ call ∈ earlier, opening - call < idle.seconds) ∧ time = opening + idle.seconds

namespace Bounded

variable [Instant.Lawful τ] {debouncer : Debouncer τ ω} {interval : Interval} {earlier : List τ}
variable {opening time : τ}

theorem opened (bounds : debouncer.settings.interval = some interval)
    (inRange : debouncer.settings.InRange) (comparable : opening ≤ opening)
    (recorded : ∀ call, debouncer.lastCall = some call → call ∈ earlier) :
    Bounded debouncer.settings interval earlier opening
      (opening + debouncer.firstDelay opening) where
  begins := Debouncer.add_begin_le_add_firstDelay bounds inRange comparable opening
  ends := by
    intro last limit
    have lastInRange := inRange.limit interval last bounds limit
    rcases Debouncer.firstDelay_cases bounds opening with
      least | ⟨idle, call, given, called, near, _, longer⟩
    · left
      rw [least]
      exact Instant.add_seconds_le comparable (interval.begin_le_limit last limit)
        (inRange.begin interval bounds) lastInRange
    · rw [longer]
      by_cases short : idle ≤ last
      · left
        exact Instant.add_seconds_le comparable short (inRange.idleTime idle given) lastInRange
      · right
        exact ⟨idle, given, short, ⟨call, recorded call called, near⟩, rfl⟩

theorem continued (bounded : Bounded debouncer.settings interval earlier opening time)
    (bounds : debouncer.settings.interval = some interval) (inRange : debouncer.settings.InRange)
    (comparable : opening ≤ opening) (now : τ) :
    Bounded debouncer.settings interval earlier opening
      (Instant.later time (debouncer.extension opening now)) := by
  have beginInRange := inRange.begin interval bounds
  rw [Instant.later]
  split
  · constructor
    · exact Debouncer.begin_le_extension bounds beginInRange comparable now
    · intro last limit
      left
      exact Debouncer.extension_le_limit bounds limit beginInRange
        (inRange.limit interval last bounds limit) comparable now
  · exact bounded

end Bounded

end Bounds

namespace DebouncerSession

variable {τ : Type} [Instant τ] {store : Store τ} {call : τ}

/-- The call is recorded after this section of an operation, or it will be when the operation
ends. -/
def Records (outcome : Outcome τ) (call : τ) : Prop :=
  outcome.store.debouncer.lastCall = some call ∨
    outcome.next.frame? = some (.serving (.record call))

omit [Instant τ] in
theorem records_answer {reply : Reply τ} (records : Records (answer store reply) call) :
    store.debouncer.lastCall = some call := by
  rcases records with recorded | waits
  · exact recorded
  · cases waits

/-- A turn that replies, or asks for work and records nothing then, records what it has recorded. -/
theorem records_take {turn : Turn τ (Agenda τ Unit) (Work (Op τ) (Reply τ))}
    {frame : Tail τ → Frame τ} (records : Records (take turn frame) call) :
    turn.debouncer.lastCall = some call ∨
      ∃ tail, turn.demand = .execute tail ∧ frame tail = .serving (.record call) := by
  rcases records with recorded | waits
  · left
    simpa [take] using recorded
  · right
    rw [take, Turn.effect] at waits
    split at waits
    · cases waits
    · next tail demand =>
        split at waits
        · cases waits
        · exact ⟨tail, demand, Option.some.inj waits⟩

theorem records_sweep {deadline : τ} {count : Nat}
    (records : Records (sweep store deadline count) call) :
    store.debouncer.lastCall = some call := by
  rw [sweep] at records
  split at records
  · exact records_answer records
  · rcases records_take records with recorded | ⟨tail, _, waits⟩
    · simpa using recorded
    · cases waits

theorem records_start (debounced : store.debouncer.settings.passthrough = false)
    (edge : store.debouncer.settings.leading = false) {op : Op τ}
    (records : Records (start op store) call) :
    store.debouncer.lastCall = some call ∨ call ∈ instants (note op store) := by
  cases op with
  | now | policy | text => exact .inl (records_answer records)
  | advance delay =>
      cases delay with
      | error fault => exact .inl (records_answer records)
      | ok delay => exact .inl (records_sweep records)
  | request request =>
      have form := Debouncer.served_serve store.debouncer store.agenda () request
      have noted : ∀ work? work, request = .call work? → work?.or store.debouncer.work = some work →
          instants (note (.request request) store) = [store.agenda.now] := by
        rintro work? work rfl found
        exact instants_note_call found
      have taken := records_take records
      generalize store.debouncer.serve store.agenda () request = turn at form taken
      cases form with
      | refusedCall | refusedNow | nothingToFlush | tooLateToFlush =>
          left
          simpa using taken
      | ranNow | flushed =>
          left
          simpa [Debouncer.execute] using taken
      | passedOn _ through => simp [debounced] at through
      | leading _ _ leads _ => simp [edge] at leads
      | trailing found _ _ called =>
          rw [noted _ _ rfl found, List.mem_singleton]
          cases called with
          | opened | overtaken | moved | kept =>
              right
              simpa [Debouncer.startTimer, Debouncer.recorded, eq_comm] using taken
          | overdue => simpa [Debouncer.execute, eq_comm] using taken
      | reset =>
          left
          simpa [Debouncer.reset, Debouncer.rewound, edge] using taken

theorem records_resume {frame : Frame τ} {reply : Reply τ}
    (records : Records (resume frame reply store) call) :
    store.debouncer.lastCall = some call ∨ frame = .serving (.record call) := by
  cases frame with
  | advancing deadline count =>
      left
      cases reply with
      | error fault => exact records_answer records
      | ok value => exact records_sweep records
  | serving tail =>
      have recorded := records_answer records
      cases tail with
      | passOn => exact .inl recorded
      | flushed => cases reply <;> exact .inl recorded
      | record other =>
          cases reply with
          | error fault => exact .inl recorded
          | ok value =>
              right
              rw [Option.some.inj recorded]

/-! ## Runs -/

/-- The pending timer is set for a time that is bounded by the call that opened its period. What is
recorded as the last call is a call that was noted. -/
structure Limited (settings : Settings) (interval : Interval) (store : Store τ)
    (notes : List (Note τ)) : Prop where
  policy : store.debouncer.settings = settings
  coherent : store.debouncer.Coherent store.agenda
  clock : store.agenda.now ≤ store.agenda.now
  recorded : ∀ call, store.debouncer.lastCall = some call → call ∈ instants notes
  bounded : ∀ id time stamp, Debouncer.Awaits store.debouncer store.agenda id time stamp →
    ∃ before opening since, Period notes before opening since ∧ opening.instant = stamp ∧
      stamp ≤ stamp ∧ Bounded settings interval (instants before) stamp time

namespace Limited

variable [Instant.Lawful τ] {settings : Settings} {interval : Interval}
variable {notes : List (Note τ)}

omit [Instant.Lawful τ] in
theorem new (name : Value) {clock : τ} (edge : settings.leading = false)
    (comparable : clock ≤ clock) :
    Limited settings interval (.new (.new settings name clock) clock) [] where
  policy := by simp [Store.new, Debouncer.new]
  coherent := Debouncer.Coherent.new settings name
  clock := comparable
  recorded := by
    intro call recorded
    simp [Store.new, Debouncer.new, Debouncer.rewound, edge] at recorded
  bounded := by
    intro id time stamp awaits
    have held := awaits.timer
    simp [Store.new, Debouncer.new] at held

theorem awaited {id : TimerId} {time stamp : τ} {more : List (Note τ)}
    (limited : Limited settings interval store notes) (bounds : settings.interval = some interval)
    (inRange : settings.InRange) (awaited : Awaited store id time stamp more) :
    ∃ before opening since, Period (notes ++ more) before opening since ∧
      opening.instant = stamp ∧ stamp ≤ stamp ∧
      Bounded settings interval (instants before) stamp time := by
  obtain rfl := limited.policy
  cases awaited with
  | same awaits =>
      rw [List.append_nil]
      exact limited.bounded id time stamp awaits
  | opened stamped delayed =>
      subst stamped delayed
      exact ⟨notes, _, [], .of_opened notes rfl, rfl, limited.clock,
        .opened bounds inRange limited.clock limited.recorded⟩
  | @continued earlier awaits moved =>
      subst moved
      rcases limited.bounded id earlier stamp awaits with
        ⟨before, opening, since, period, opened, comparable, bounded⟩
      exact ⟨before, opening, _, period.call ⟨rfl, rfl⟩, opened, comparable,
        bounded.continued bounds inRange comparable _⟩

theorem served (limited : Limited settings interval store notes)
    (bounds : settings.interval = some interval) (inRange : settings.InRange)
    (edge : settings.leading = false) (request : Request (Work (Op τ) (Reply τ))) :
    Limited settings interval (start (.request request) store).store
      (notes ++ note (.request request) store) := by
  have form := Debouncer.served_serve store.debouncer store.agenda () request
  have debounced : store.debouncer.settings.passthrough = false := by
    simp [Settings.passthrough, limited.policy, bounds]
  have trailing : store.debouncer.settings.leading = false := limited.policy ▸ edge
  constructor
  · simpa [start, take] using form.settings.trans limited.policy
  · simpa [start, take] using limited.coherent.served form
  · simpa [now_request] using limited.clock
  · intro call recorded
    rw [instants_append, List.mem_append]
    exact (records_start debounced trailing (.inl recorded)).imp_left (limited.recorded call)
  · intro id time stamp awaits
    exact limited.awaited bounds inRange (awaited_of_request debounced trailing request awaits)

theorem passed {outcome : Outcome τ} (limited : Limited settings interval store notes)
    (passage : Passage store outcome)
    (recorded : ∀ call, outcome.store.debouncer.lastCall = some call → call ∈ instants notes) :
    Limited settings interval outcome.store notes where
  policy := passage.settings.trans limited.policy
  coherent := passage.coherent limited.coherent
  clock := Instant.Lawful.le_right (passage.now_le limited.clock)
  recorded := recorded
  bounded := by
    intro id time stamp awaits
    exact limited.bounded id time stamp (passage.awaits limited.coherent awaits)

end Limited

section Runs

variable [Instant.Lawful τ] {settings : Settings} {interval : Interval}

/-- In every state of a run on the trailing edge the pending timer is bounded by the notes. -/
theorem limited_of_noted {name : Value} {clock : τ} {script : Script (Op τ) (Reply τ)}
    {state : State τ} {notes : List (Note τ)} (bounds : settings.interval = some interval)
    (inRange : settings.InRange) (edge : settings.leading = false) (comparable : clock ≤ clock)
    (noted : machine.Noted note (State.initial settings name clock script) state notes) :
    Limited settings interval state.store notes := by
  have debounced : ∀ (store : Store τ) notes, Limited settings interval store notes →
      store.debouncer.settings.passthrough = false ∧ store.debouncer.settings.leading = false := by
    intro store notes limited
    rw [limited.policy]
    exact ⟨by simp [Settings.passthrough, bounds], edge⟩
  refine noted.keeps (Limited settings interval)
    (fun frame notes => ∀ call, frame = .serving (.record call) → call ∈ instants notes) ?_ ?_ ?_
    (.new name edge comparable) rfl
  · intro frame notes more waits call recording
    rw [instants_append]
    exact List.mem_append_left _ (waits call recording)
  · intro op store notes limited
    rcases debounced store notes limited with ⟨through, trailing⟩
    have recorded : ∀ call, Records (start op store) call →
        call ∈ instants (notes ++ note op store) := by
      intro call records
      rw [instants_append, List.mem_append]
      exact (records_start through trailing records).imp_left (limited.recorded call)
    constructor
    · cases asks : Requesting.request? op with
      | none =>
          rw [note_of_other asks, List.append_nil] at recorded ⊢
          exact limited.passed (passage_start op store asks) fun call last =>
            recorded call (.inl last)
      | some request =>
          obtain rfl := Op.eq_of_request? asks
          exact limited.served bounds inRange edge request
    · rintro frame entered call rfl
      exact recorded call (.inr entered)
  · intro frame reply store notes waits limited
    have recorded : ∀ call, Records (resume frame reply store) call → call ∈ instants notes := by
      intro call records
      exact (records_resume records).elim (limited.recorded call) (waits call)
    constructor
    · exact limited.passed (passage_resume frame reply store) fun call last =>
        recorded call (.inl last)
    · rintro later entered call rfl
      exact recorded call (.inr entered)

/-- On the trailing edge a pending timer is set for an instant at or after the beginning of the
interval, counted from the call that opened the period, and at or before its end, if there is one.
The latter fails only where the period was opened within the idle time of an earlier call, and the
idle time is longer than the interval: the timer then starts with the idle time. -/
theorem executionTime_within_interval (settings : Settings) (interval : Interval) (last : Duration)
    (name : Value) (clock : τ) (script : Script (Op τ) (Reply τ)) (state : State τ)
    (notes : List (Note τ)) (time : τ) (bounds : settings.interval = some interval)
    (limit : interval.limit? = some last) (inRange : settings.InRange)
    (edge : settings.leading = false) (comparable : clock ≤ clock)
    (noted : machine.Noted note (State.initial settings name clock script) state notes)
    (status : state.store.debouncer.timerStatus? state.store.agenda = some ⟨true, time⟩) :
    ∃ before opening since, Period notes before opening since ∧
      state.store.debouncer.leadingTimestamp = some opening.instant ∧
      opening.instant + interval.begin.seconds ≤ time ∧
      (time ≤ opening.instant + last.seconds ∨
        ∃ idle, settings.idleTime = some idle ∧ ¬ idle ≤ last ∧
          (∃ call ∈ instants before, opening.instant - call < idle.seconds) ∧
          time = opening.instant + idle.seconds) := by
  have limited := limited_of_noted bounds inRange edge comparable noted
  rcases Debouncer.awaits_of_timerStatus? limited.coherent.stamped status with ⟨id, stamp, awaits⟩
  rcases limited.bounded id time stamp awaits with
    ⟨before, opening, since, period, rfl, _, bounded⟩
  exact ⟨before, opening, since, period, awaits.stamped, bounded.begins, bounded.ends last limit⟩

end Runs

/-- A second call keeps the period open, up to the end of the interval. -/
theorem executionTime_within_interval_of_two :
    let first := State.initial (oneToTwo false) .null (0 : Float)
      (.before [.request (.call (some (.resting [0]))), .advance (.ok 0.5), .request (.call none)]
        (.done (.ok .nothing)))
    let state := machine.run 3 first
    let notes := machine.notes note 3 first
    machine.Noted note first state notes ∧
      state.store.debouncer.timerStatus? state.store.agenda = some ⟨true, 2⟩ ∧
      ∃ before opening since, Period notes before opening since ∧
        state.store.debouncer.leadingTimestamp = some opening.instant ∧
        opening.instant + (Duration.ofSeconds 1).seconds ≤ 2 ∧
        (2 ≤ opening.instant + (Duration.ofSeconds 2).seconds ∨
          ∃ idle, (oneToTwo false).idleTime = some idle ∧ ¬ idle ≤ .ofSeconds 2 ∧
            (∃ call ∈ instants before, opening.instant - call < idle.seconds) ∧
            2 = opening.instant + idle.seconds) := by
  intro first state notes
  have noted := Machine.noted_run machine note 3 first
  have status : state.store.debouncer.timerStatus? state.store.agenda = some ⟨true, 2⟩ := by
    decide +kernel
  have comparable : (0 : Float) ≤ 0 := by decide +kernel
  exact ⟨noted, status, executionTime_within_interval (oneToTwo false) .oneToTwo (.ofSeconds 2) _ _ _
    state notes 2 rfl rfl (oneToTwo_inRange false) rfl comparable noted status⟩

/-- A period that is opened one second after a call starts with the idle time of ten seconds,
although the interval ends after two. -/
theorem executionTime_beyond_interval :
    let first := State.initial (oneToTwo false) .null (0 : Float)
      (.before [.request (.call (some (.resting [0]))), .advance (.ok 1), .request (.call none)]
        (.done (.ok .nothing)))
    let state := machine.run 4 first
    machine.Reaches first state ∧ state.store.debouncer.leadingTimestamp = some 1 ∧
      state.store.debouncer.timerStatus? state.store.agenda = some ⟨true, 11⟩ ∧
      ¬ (11 : Float) ≤ 1 + (Duration.ofSeconds 2).seconds := by
  intro first state
  refine ⟨Machine.reaches_run machine 4 first, ?_, ?_, ?_⟩
  · decide +kernel
  · decide +kernel
  · decide +kernel

end DebouncerSession

end Debounce
