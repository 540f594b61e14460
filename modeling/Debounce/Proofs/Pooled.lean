import Debounce.Proofs.Interchange
import Debounce.Proofs.Tending

/-!
# Sections of operations on the pool

What the sections of operations do to a session whose timers run their works on a pool that is
there: they change the context or leave it alone, they set a timer, or they let one fire, which
goes on in the context that the timer has kept.
-/

namespace Debounce

variable {τ : Type} [Instant τ]

namespace BackgroundSession

/-- A state of a run of a session. -/
abbrev State (τ : Type) := Config (Op τ) (Reply τ) (Store τ) (Frame τ) (Event τ)

/-- The operation leaves the pool to the timers. -/
def Op.sparesPool : Op τ → Bool
  | .tidy _ | .submit _ _ | .report _ => false
  | _ => true

/-- How the operation changes the context of its strand. -/
def Op.rebind : Op τ → Fields → Fields
  | .bind bindings => (·.merge bindings)
  | .clearContext => fun _ => []
  | _ => id

section Work

variable {debouncer : Debouncer τ (Work (Op τ) (Reply τ))} {agenda other : Agenda τ (Deferred τ)}

omit [Instant τ] in
/-- No timer is to fire the debouncer. -/
def Independent (agenda : Agenda τ (Deferred τ)) : Prop :=
  ∀ id timer, agenda.get? id = some timer → timer.callback.task ≠ .debouncer

omit [Instant τ] in
/-- The debouncer has work if it has ever set a timer. -/
def Supplied (debouncer : Debouncer τ (Work (Op τ) (Reply τ))) (agenda : Agenda τ (Deferred τ)) :
    Prop :=
  debouncer.work = none → debouncer.timer = none ∧ Independent agenda

omit [Instant τ] in
theorem Independent.of_keeps (independent : Independent agenda) (keeps : agenda.Keeps other) :
    Independent other := by
  intro id timer stored task
  obtain ⟨former, found, same, _⟩ := keeps.former id timer stored
  exact independent id former found (same ▸ task)

omit [Instant τ] in
theorem Independent.add (independent : Independent agenda) (time : τ) (context : Fields)
    (work? : Option (Work (Op τ) (Reply τ))) :
    Independent (agenda.add time ⟨context, .work work?⟩).2 := by
  intro id timer stored
  rw [Agenda.get?_add] at stored
  split at stored
  · cases stored
    simp
  · exact independent id timer stored

omit [Instant τ] in
theorem Supplied.of_keeps (supplied : Supplied debouncer agenda) (keeps : agenda.Keeps other) :
    Supplied debouncer other :=
  fun absent => (supplied absent).imp_right fun independent => independent.of_keeps keeps

omit [Instant τ] in
theorem Supplied.add (supplied : Supplied debouncer agenda) (time : τ) (context : Fields)
    (work? : Option (Work (Op τ) (Reply τ))) :
    Supplied debouncer (agenda.add time ⟨context, .work work?⟩).2 :=
  fun absent => (supplied absent).imp_right fun independent => independent.add time context work?

omit [Instant τ] in
theorem Supplied.work_of_task {id : TimerId} {timer : Timer τ (Deferred τ)}
    (supplied : Supplied debouncer agenda) (stored : agenda.get? id = some timer)
    (task : timer.callback.task = .debouncer) : ∃ work, debouncer.work = some work := by
  rw [← Option.isSome_iff_exists, Option.isSome_iff_ne_none]
  intro absent
  exact (supplied absent).2 id timer stored task

theorem Supplied.served {request : Request (Work (Op τ) (Reply τ))} {callback : Deferred τ}
    {turn : Turn τ (Agenda τ (Deferred τ)) (Work (Op τ) (Reply τ))}
    (supplied : Supplied debouncer agenda)
    (served : debouncer.Served agenda callback request turn) :
    Supplied turn.debouncer turn.scheduler := by
  intro absent
  have before : debouncer.work = none := by
    rw [served.work] at absent
    exact (Option.or_eq_none_iff.mp absent).2
  obtain ⟨timer, same⟩ := served.of_work_eq_none absent (supplied before).1
  exact ⟨timer, same ▸ (supplied before).2⟩

omit [Instant τ] in
/-- A debouncer stays supplied when the pool takes over the callback of a timer. -/
theorem Supplied.handing (supplied : Supplied debouncer agenda) (place : TimerId) :
    Supplied (handing debouncer agenda place).debouncer agenda := by
  intro absent
  have before : debouncer.work = none := by
    rw [BackgroundSession.handing, Debouncer.fire_work] at absent
    exact absent
  refine ⟨?_, (supplied before).2⟩
  simp [BackgroundSession.handing, Debouncer.fire, Debouncer.execute, (supplied before).1]

end Work

/-- The pool is there, and so is a debouncer, which has work if it has ever set a timer. -/
structure Ready (store : Store τ) : Prop where
  pool : ∃ pool, store.process.executor = (.ok pool, store.process)
  holds : ∃ debouncer, store.debouncer = some debouncer ∧ (debouncer.work = none →
    debouncer.timer = none ∧ ∀ id timer, store.agenda.get? id = some timer →
      timer.callback.task ≠ .debouncer)

/-- An execution that the section reports has a permitted cause, and the work sees the context that
the section leaves. -/
def Shows (outcome : Outcome τ) (Permitted : Cause → Prop) : Prop :=
  ∀ name cause, .executed name cause ∈ outcome.events → Permitted cause ∧
    ∃ frame work time, outcome.next = .enter frame work {} ∧
      .ran work.id work.name time outcome.store.context ∈ outcome.events

/-- What a section does that lets a timer fire. -/
structure Fires (store : Store τ) (outcome : Outcome τ) (id : TimerId)
    (timer : Timer τ (Deferred τ)) : Prop where
  stored : store.agenda.get? id = some timer
  active : timer.active = true
  keeps : store.agenda.Keeps outcome.store.agenda
  ended : outcome.store.agenda.Ended id
  context : outcome.store.context = timer.callback.context
  ready : Ready outcome.store
  goesOn : outcome.next.frame? = some (.settling (some id) store.context)
  shows : Shows outcome (· = .timer id)

/-- What a section does that sets a timer. -/
structure Opens (store : Store τ) (outcome : Outcome τ) : Prop where
  sets : ∃ time task, outcome.store.agenda = (store.agenda.add time ⟨store.context, task⟩).2
  context : outcome.store.context = store.context
  ready : Ready outcome.store
  finishes : outcome.next.frame? = none
  silent : outcome.Silent

/-- What a section of an operation does that sets no timer. -/
inductive Section (store : Store τ) : (Fields → Fields) → Outcome τ → Prop where
  /-- It changes the context of its strand. -/
  | rebound {change : Fields → Fields} {outcome : Outcome τ} :
      outcome.store = { store with context := change store.context } →
      outcome.next.frame? = none → outcome.Silent → Section store change outcome
  /-- It leaves the context alone. -/
  | own {outcome : Outcome τ} :
      outcome.store.context = store.context → Ready outcome.store →
      store.agenda.Keeps outcome.store.agenda →
      (∀ frame, outcome.next.frame? = some frame → ∃ tail, frame = .serving tail) →
      Shows outcome (fun cause => ∀ id, cause ≠ .timer id) → Section store id outcome
  /-- It lets a timer fire. -/
  | fired {place : TimerId} {timer : Timer τ (Deferred τ)} {outcome : Outcome τ} :
      Fires store outcome place timer → Section store id outcome

section Sections

variable {store other : Store τ} {outcome : Outcome τ} {Permitted : Cause → Prop}

omit [Instant τ] in
theorem Shows.of_silent (silent : outcome.Silent) : Shows outcome Permitted :=
  fun _ _ member => absurd trivial (silent _ member)

omit [Instant τ] in
/-- What is reported before makes no difference if it is no execution. -/
theorem Shows.prepend (shows_ : Shows outcome Permitted) {earlier : List (Event τ)}
    (silent : ∀ event ∈ earlier, ¬ event.IsExecution) :
    Shows { outcome with events := earlier ++ outcome.events } Permitted := by
  intro name cause member
  rcases List.mem_append.mp member with before | now
  · exact absurd trivial (silent _ before)
  · obtain ⟨permitted, frame, work, time, enters, ran⟩ := shows_ name cause now
    exact ⟨permitted, frame, work, time, enters, List.mem_append_right _ ran⟩

omit [Instant τ] in
theorem Fires.prepend {id : TimerId} {timer : Timer τ (Deferred τ)}
    (fires : Fires store outcome id timer) {earlier : List (Event τ)}
    (silent : ∀ event ∈ earlier, ¬ event.IsExecution) :
    Fires store { outcome with events := earlier ++ outcome.events } id timer :=
  { fires with shows := fires.shows.prepend silent }

omit [Instant τ] in
theorem Section.prepend {change : Fields → Fields} (acts : Section store change outcome)
    {earlier : List (Event τ)} (silent : ∀ event ∈ earlier, ¬ event.IsExecution) :
    Section store change { outcome with events := earlier ++ outcome.events } := by
  cases acts with
  | rebound left ends quiet =>
      refine .rebound left ends ?_
      intro event member
      exact (List.mem_append.mp member).elim (silent event) (quiet event)
  | own context ready keeps frames told =>
      exact .own context ready keeps frames (told.prepend silent)
  | fired fires => exact .fired (fires.prepend silent)

theorem shows_take_of_executes {turn : Turn τ (Agenda τ (Deferred τ)) (Work (Op τ) (Reply τ))}
    {frame : Tail τ → Frame τ} {cause : Cause} {work : Work (Op τ) (Reply τ)}
    (executes : turn.Executes cause) (supplied : turn.debouncer.work = some work)
    (permitted : Permitted cause) : Shows (take store turn frame) Permitted := by
  obtain ⟨tail, demand⟩ := executes.demand
  obtain ⟨earlier, events, silent⟩ := executes.events
  have told : (take store turn frame).events = earlier ++ [.executed turn.debouncer.name cause,
      .ran work.id work.name turn.scheduler.now store.context] := by
    simp [take, Turn.effect, demand, supplied, events]
  have context : (take store turn frame).store.context = store.context := by simp [take]
  intro name other member
  rw [told] at member
  rcases List.mem_append.mp member with before | now
  · exact absurd trivial (silent _ before)
  · obtain ⟨_, rfl⟩ : name = turn.debouncer.name ∧ other = cause := by simpa using now
    refine ⟨permitted, frame tail, work, turn.scheduler.now, ?_, ?_⟩
    · simp [take, Turn.effect, demand, supplied]
    · rw [told, context]
      simp

theorem frame?_take_of_executes {turn : Turn τ (Agenda τ (Deferred τ)) (Work (Op τ) (Reply τ))}
    {choose : Tail τ → Frame τ} {cause : Cause} {work : Work (Op τ) (Reply τ)}
    (executes : turn.Executes cause) (supplied : turn.debouncer.work = some work) :
    ∃ tail, (take store turn choose).next.frame? = some (choose tail) := by
  obtain ⟨tail, demand⟩ := executes.demand
  exact ⟨tail, by simp [take, Turn.effect, demand, supplied, Next.frame?]⟩

theorem frame_of_take {turn : Turn τ (Agenda τ (Deferred τ)) (Work (Op τ) (Reply τ))}
    {choose : Tail τ → Frame τ} {frame : Frame τ}
    (goesOn : (take store turn choose).next.frame? = some frame) : ∃ tail, frame = choose tail := by
  rw [take, Turn.effect] at goesOn
  split at goesOn
  · cases goesOn
  · next tail _ =>
      split at goesOn
      · cases goesOn
      · exact ⟨tail, (Option.some.inj goesOn).symm⟩

omit [Instant τ] in
/-- A store stays ready whose timers keep their callbacks. -/
theorem Ready.of_keeps (ready : Ready store) (process : other.process = store.process)
    (debouncer : other.debouncer = store.debouncer) (keeps : store.agenda.Keeps other.agenda) :
    Ready other where
  pool := process ▸ ready.pool
  holds := by
    obtain ⟨held, holds, supplied⟩ := ready.holds
    exact ⟨held, debouncer.trans holds, Supplied.of_keeps supplied keeps⟩

omit [Instant τ] in
/-- An operation that answers in its own context and keeps the timers. -/
theorem section_answer (ready : Ready store) (agenda : Agenda τ (Deferred τ))
    (keeps : store.agenda.Keeps agenda) (reply : Reply τ) :
    Section store id (answer { store with agenda := agenda } reply) := by
  refine .own rfl (ready.of_keeps rfl rfl keeps) keeps ?_ ?_
  · intro frame goesOn
    cases goesOn
  · apply Shows.of_silent
    intro event member
    cases member

omit [Instant τ] in
theorem section_reply (ready : Ready store) (reply : Reply τ) :
    Section store id (answer store reply) :=
  section_answer ready store.agenda (Agenda.keeps_of_timers rfl) reply

omit [Instant τ] in
theorem section_withTimer (ready : Ready store) {label : String} {use : TimerId → Outcome τ}
    (uses : ∀ place, Section store id (use place)) :
    Section store id (withTimer store label use) := by
  rw [withTimer]
  split
  · exact section_reply ready _
  · exact uses _

theorem ready_of_served {debouncer : Debouncer τ (Work (Op τ) (Reply τ))}
    {request : Request (Work (Op τ) (Reply τ))}
    {turn : Turn τ (Agenda τ (Deferred τ)) (Work (Op τ) (Reply τ))} {callback : Deferred τ}
    (ready : Ready store) (holds : store.debouncer = some debouncer)
    (served : debouncer.Served store.agenda callback request turn) :
    Ready { store with agenda := turn.scheduler, debouncer := some turn.debouncer } where
  pool := ready.pool
  holds := by
    obtain ⟨held, same, supplied⟩ := ready.holds
    obtain rfl := Option.some.inj (holds.symm.trans same)
    exact ⟨turn.debouncer, rfl, Supplied.served supplied served⟩

/-- A request is served in the context of the caller. -/
theorem section_request (ready : Ready store) (request : Request (Work (Op τ) (Reply τ))) :
    Section store id (start (.request request) store) ∨
      Opens store (start (.request request) store) := by
  obtain ⟨debouncer, holds, without⟩ := ready.holds
  rw [start, holds]
  dsimp only
  have served := debouncer.served_serve store.agenda ⟨store.context, .debouncer⟩ request
  have left : (take store (debouncer.serve store.agenda ⟨store.context, .debouncer⟩ request)
      Frame.serving).store = _ := Turn.effect_store
  have readyAfter := ready_of_served ready holds served
  rw [← left] at readyAfter
  rcases served.touches_or_sets with touches | ⟨replies, demand, time, sets⟩
  · left
    have keeps := touches.keeps
    refine .own (by rw [left]) readyAfter (by rwa [left]) (fun frame => frame_of_take) ?_
    rcases served.executes_or_replies_without_timer with ⟨cause, permitted, executes⟩ | replies
    · have flushable : ∀ place, debouncer.timer = some place →
          (Scheduler.cancel store.agenda place).1 = true → debouncer.work.isSome := by
        intro place held _
        cases work : debouncer.work with
        | none => cases (without work).1.symm.trans held
        | some work => rfl
      obtain ⟨work, supplied⟩ := served.work_of_executes executes flushable
      exact shows_take_of_executes executes supplied permitted
    · exact .of_silent replies.silent
  · right
    refine ⟨⟨time, .debouncer, by rw [left, sets]⟩, by rw [left], readyAfter, ?_, replies.silent⟩
    simp [take, Turn.effect_of_reply demand, Next.frame?]

omit [Instant τ] in
/-- The turn of a timer whose callback the pool takes over leaves the session ready. -/
theorem ready_of_handing {debouncer : Debouncer τ (Work (Op τ) (Reply τ))} (ready : Ready store)
    (holds : store.debouncer = some debouncer) (place : TimerId) :
    Ready { store with debouncer := some (handing debouncer store.agenda place).debouncer } where
  pool := ready.pool
  holds := by
    obtain ⟨held, same, supplied⟩ := ready.holds
    obtain rfl := Option.some.inj (holds.symm.trans same)
    exact ⟨_, rfl, Supplied.handing supplied place⟩

section Expired

variable {place : TimerId} {timer : Timer τ (Deferred τ)} {agenda : Agenda τ (Deferred τ)}

/-- A timer with a work of its own fires where the session settles. -/
theorem fires_of_work {work? : Option (Work (Op τ) (Reply τ))} (ready : Ready store)
    (expired : store.agenda.expireNext? = some (place, timer, agenda))
    (task : timer.callback.task = .work work?) : Fires store (settle store) place timer := by
  obtain ⟨stored, active, keeps, ended⟩ := Agenda.expireNext?_eq_some expired
  obtain ⟨pool, made⟩ := ready.pool
  have readyAfter : Ready { store with agenda := agenda, context := timer.callback.context } :=
    ready.of_keeps rfl rfl keeps
  have runs : settle store = runWork
      { store with agenda := agenda, context := timer.callback.context } work? {}
      (.settling (some place) store.context) [.handedOver place] := by
    rw [settle, expired]
    dsimp only
    rw [made, task]
    rfl
  rw [runs]
  cases work? with
  | none =>
      refine ⟨stored, active, keeps, ended, rfl, readyAfter, rfl, .of_silent ?_⟩
      simp [Effect.Silent, runWork, skip]
  | some work =>
      refine ⟨stored, active, keeps, ended, rfl, readyAfter, rfl, ?_⟩
      simp [Shows, runWork]

/-- A timer of the debouncer fires where the session settles. -/
theorem fires_of_debouncer (ready : Ready store)
    (expired : store.agenda.expireNext? = some (place, timer, agenda))
    (task : timer.callback.task = .debouncer) : Fires store (settle store) place timer := by
  obtain ⟨stored, active, keeps, ended⟩ := Agenda.expireNext?_eq_some expired
  obtain ⟨pool, made⟩ := ready.pool
  obtain ⟨debouncer, holds, supplies⟩ := ready.holds
  have readyAfter : Ready { store with agenda := agenda, context := timer.callback.context } :=
    ready.of_keeps rfl rfl keeps
  obtain ⟨work, held⟩ := Supplied.work_of_task supplies stored task
  have executes := handing_executes debouncer agenda place
  have supplied : (handing debouncer agenda place).debouncer.work = some work := by
    simp [handing, held]
  rw [settle_of_expired made holds expired task]
  constructor
  · exact stored
  · exact active
  · simpa [take, handing] using keeps
  · simpa [take, handing] using ended
  · simp [take]
  · simpa [take, handing] using ready_of_handing readyAfter holds place
  · exact (frame?_take_of_executes executes supplied).choose_spec
  · exact shows_take_of_executes executes supplied rfl

/-- Where the session settles, the next timer fires if there is one. -/
theorem settle_cases (ready : Ready store) :
    settle store = answer store (.ok .nothing) ∨
      ∃ id timer, Fires store (settle store) id timer := by
  cases expired : store.agenda.expireNext? with
  | none => exact .inl (settle_of_idle expired)
  | some found =>
      obtain ⟨place, timer, agenda⟩ := found
      right
      refine ⟨place, timer, ?_⟩
      cases task : timer.callback.task with
      | work work? => exact fires_of_work ready expired task
      | debouncer => exact fires_of_debouncer ready expired task

end Expired

theorem section_settle (ready : Ready store) : Section store id (settle store) := by
  rcases settle_cases ready with idle | ⟨id, timer, fires⟩
  · rw [idle]
    exact section_reply ready _
  · exact .fired fires

/-- A timer is set with a copy of the context. -/
theorem opens_schedule (ready : Ready store) (label : String) (delay : τ)
    (work? : Option (Work (Op τ) (Reply τ))) :
    Opens store (start (.schedule label (.ok delay) work?) store) where
  sets := ⟨_, _, rfl⟩
  context := rfl
  finishes := rfl
  silent := by
    intro event member
    cases member
  ready := by
    obtain ⟨debouncer, holds, supplied⟩ := ready.holds
    exact ⟨ready.pool, debouncer, holds, Supplied.add supplied _ _ work?⟩

/-- Whatever an operation does when it begins. -/
theorem section_start (ready : Ready store) {op : Op τ} (spares : op.sparesPool = true) :
    Section store op.rebind (start op store) ∨ op.rebind = id ∧ Opens store (start op store) := by
  cases op with
  | schedule label delay work? =>
      cases delay with
      | error fault => exact .inl (section_reply ready _)
      | ok delay => exact .inr ⟨rfl, opens_schedule ready label delay work?⟩
  | cancel label =>
      left
      apply section_withTimer ready
      intro place
      exact section_answer ready _ (Agenda.Touches.cancelled place).keeps _
  | reschedule label time =>
      left
      apply section_withTimer ready
      intro place
      cases time with
      | error fault => exact section_reply ready _
      | ok time => exact section_answer ready _ (Agenda.Touches.moved place time).keeps _
  | now => exact .inl (section_reply ready _)
  | setClock time =>
      left
      cases time with
      | error fault => exact section_reply ready _
      | ok time =>
          have keeps : store.agenda.Keeps { store.agenda with now := time } :=
            Agenda.keeps_of_timers rfl
          exact section_answer ready _ keeps _
  | request request => exact (section_request ready request).imp_right fun opens => ⟨rfl, opens⟩
  | bind | clearContext => exact .inl (.rebound rfl rfl (by simp [Effect.Silent, start, answer]))
  | tidy | submit | report => cases spares
  | settle => exact .inl (section_settle ready)

end Sections

end BackgroundSession

end Debounce
