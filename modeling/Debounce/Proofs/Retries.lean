import Debounce.Proofs.Spacing
import Debounce.Proofs.Takes

/-!
# Advances that are tried again

A callback that raises ends the advance that runs it. The clock stands at the time of its timer by
then, and the timers that have not fired yet are as they were, so an advance to the same deadline
goes on from there. However many callbacks raise, the timers that fire until an advance comes to its
end are those that fire in a single advance whose callbacks return.
-/

namespace Debounce

namespace TimerSession

variable {τ : Type}

/-! ## Callbacks that raise -/

/-- A script that returns or raises, and does nothing on the way but read the clock. -/
inductive Aloof : Script (Op τ) (Reply τ) → Prop where
  | done (reply : Reply τ) : Aloof (.done reply)
  | now {next : Reply τ → Script (Op τ) (Reply τ)} :
      (∀ reading, Aloof (next (.ok (.instant reading)))) → Aloof (.step .now next)
  | runs (work : WorkId) {next : Nat → Script (Op τ) (Reply τ)} :
      (∀ count, Aloof (next count)) → Aloof (.runs work next)

section Scripts

variable {script : Script (Op τ) (Reply τ)} {runs : Runs} {reading : τ} {reply : Reply τ}

theorem Aloof.answers (aloof : Aloof script) (runs : Runs) (reading : τ) :
    ∃ reply, Answers runs reading script reply := by
  induction aloof with
  | done reply => exact ⟨reply, .done reply⟩
  | now _ ih => exact (ih reading).imp fun _ answers => .now answers
  | runs work _ ih => exact (ih (runs work)).imp fun _ answers => .runs answers

theorem Passive.aloof (passive : Passive script) : Aloof script := by
  induction passive with
  | done value => exact .done _
  | now _ ih => exact .now ih
  | runs work _ ih => exact .runs work ih

/-- A passive script does not raise. -/
theorem Passive.ok_of_answers (passive : Passive script)
    (answers : Answers runs reading script reply) : ∃ value, reply = .ok value := by
  induction answers with
  | done reply =>
      cases passive
      exact ⟨_, rfl⟩
  | now _ ih =>
      cases passive with
      | now next => exact ih (next reading)
  | @runs work _ _ _ ih =>
      cases passive with
      | runs _ next => exact ih (next (runs work))

end Scripts

/-- The callbacks of the timers that are due at the deadline are works with scripts of a kind. -/
def DueCallbacks [Instant τ] (kind : Script (Op τ) (Reply τ) → Prop) (deadline : τ)
    (agenda : Agenda τ (Callback τ)) : Prop :=
  ∀ id timer, agenda.get? id = some timer → timer.due deadline = true →
    ∃ work, timer.callback = some work ∧ kind (work.body {})

/-! ## The record of an advance -/

/-- The timers that have fired, with the times that they were set for. -/
def timersFired (history : History τ) : List (TimerId × τ) := history.filterMap Moment.firing?

/-- The record tells of these timers that they have fired, and of a work that began to run at each
of these readings, and of no other ones. -/
structure Tells (history : History τ) (firings : List (Agenda.Firing τ)) : Prop where
  timers : timersFired history = firings.map fun firing => (firing.timer, firing.executionTime)
  instants : starts history = firings.map Agenda.Firing.now

section Tells

variable {history more : History τ} {firings others : List (Agenda.Firing τ)}

theorem Tells.append (first : Tells history firings) (second : Tells more others) :
    Tells (history ++ more) (firings ++ others) where
  timers := by
    rw [List.map_append, ← first.timers, ← second.timers]
    exact List.filterMap_append
  instants := by rw [starts_append, List.map_append, first.instants, second.instants]

theorem tells_of_silent (silent : ∀ told, .event told ∉ history) : Tells history [] where
  timers := by
    apply List.filterMap_eq_nil_iff.mpr
    intro moment member
    cases moment with
    | event told => exact absurd member (silent told)
    | began | ended => rfl
  instants := by
    apply starts_of_silent
    rintro _ member ⟨told, rfl, _⟩
    exact silent told member

/-- Its beginning and its end tell nothing of an operation. -/
theorem Tells.performed (tells : Tells history firings) (op : Op τ) (reply : Reply τ)
    (depth : Nat) : Tells (.began op depth :: (history ++ [.ended op reply depth])) firings := by
  have begins : Tells [.began op depth] [] := tells_of_silent (by simp)
  have ends : Tells [.ended op reply depth] [] := tells_of_silent (by simp)
  simpa using begins.append (tells.append ends)

end Tells

/-! ## Advances with aloof callbacks -/

variable [Instant τ]

/-- How a sweep goes whose callbacks are aloof: the timers that fire one after the other, the reply,
and the agenda and the counts of runs that it leaves. -/
inductive Course (deadline : τ) : Nat → Runs → Agenda τ (Callback τ) → List (Agenda.Firing τ) →
    Reply τ → Agenda τ (Callback τ) → Runs → Prop where
  | arrived {count : Nat} {runs : Runs} {agenda : Agenda τ (Callback τ)} :
      agenda.fireNext? deadline = none →
      Course deadline count runs agenda [] (.ok (.count count)) (agenda.arrive deadline) runs
  | raised {count : Nat} {runs : Runs} {agenda fired : Agenda τ (Callback τ)} {id : TimerId}
      {timer : Timer τ (Callback τ)} {work : Work (Op τ) (Reply τ)} {fault : Fault} :
      agenda.fireNext? deadline = some (id, timer, fired) → timer.callback = some work →
      Answers (runs.count work.id) fired.now (work.body {}) (.error fault) →
      Course deadline count runs agenda [⟨id, timer.executionTime, fired.now⟩] (.error fault) fired
        (runs.count work.id)
  | returned {count : Nat} {runs left : Runs} {agenda fired last : Agenda τ (Callback τ)}
      {id : TimerId} {timer : Timer τ (Callback τ)} {work : Work (Op τ) (Reply τ)}
      {value : Answer τ} {firings : List (Agenda.Firing τ)} {reply : Reply τ} :
      agenda.fireNext? deadline = some (id, timer, fired) → timer.callback = some work →
      Answers (runs.count work.id) fired.now (work.body {}) (.ok value) →
      Course deadline (count + 1) (runs.count work.id) fired firings reply last left →
      Course deadline count runs agenda (⟨id, timer.executionTime, fired.now⟩ :: firings) reply last
        left

section Course

variable {deadline : τ} {kind : Script (Op τ) (Reply τ) → Prop} {count : Nat} {runs left : Runs}
variable {agenda last : Agenda τ (Callback τ)} {firings : List (Agenda.Firing τ)} {reply : Reply τ}
variable {value : Answer τ} {fault : Fault}

/-- Timers that have fired do not matter any more. -/
theorem DueCallbacks.takes (callbacks : DueCallbacks kind deadline agenda)
    (takes : Agenda.Takes deadline agenda firings last) : DueCallbacks kind deadline last := by
  intro id timer stored due
  rw [takes.get?] at stored
  split at stored
  · obtain ⟨before, _, rfl⟩ := Option.map_eq_some_iff.mp stored
    simp [Timer.due, Timer.active, Timer.spent] at due
  · exact callbacks id timer stored due

/-- A sweep whose callbacks are aloof goes one way or another, since each timer that fires is not
pending any more. -/
theorem exists_course (aloof : DueCallbacks Aloof deadline agenda) (count : Nat) (runs : Runs) :
    ∃ firings reply last left, Course deadline count runs agenda firings reply last left := by
  induction size : agenda.pendingCount using Nat.strong_induction_on
    generalizing agenda count runs with
  | h size ih =>
      cases found : agenda.fireNext? deadline with
      | none => exact ⟨[], _, _, _, .arrived found⟩
      | some next =>
          obtain ⟨id, timer, fired⟩ := next
          obtain ⟨stored, active, early, _⟩ := Agenda.fireNext?_eq_some found
          obtain ⟨work, callback, script⟩ :=
            aloof id timer stored (Agenda.due_iff.mpr ⟨active, early⟩)
          obtain ⟨reply, answers⟩ := script.answers (runs.count work.id) fired.now
          cases reply with
          | error fault => exact ⟨_, _, _, _, .raised found callback answers⟩
          | ok value =>
              have fewer := Agenda.pendingCount_of_fireNext? found
              rw [size] at fewer
              obtain ⟨firings, reply, last, left, course⟩ :=
                ih fired.pendingCount fewer (aloof.takes (.one found)) (count + 1)
                  (runs.count work.id) rfl
              exact ⟨_, _, _, _, .returned found callback answers course⟩

/-- A sweep that ends with an answer has taken every timer that was due. -/
theorem Course.arrives (course : Course deadline count runs agenda firings (.ok value) last left) :
    value = .count (count + firings.length) ∧ Agenda.Clears deadline agenda firings last := by
  generalize ends : Except.ok value = reply at course
  induction course with
  | arrived absent =>
      cases ends
      exact ⟨rfl, _, .nil, absent, rfl⟩
  | raised => cases ends
  | returned found _ _ _ ih =>
      obtain ⟨counted, clears⟩ := ih ends
      refine ⟨?_, (Agenda.Takes.one found).clears clears⟩
      rw [counted, List.length_cons, Nat.add_assoc, Nat.add_comm 1]

/-- The sweep has taken these timers, and the callback of the last one has raised. -/
structure Raises (deadline : τ) (agenda : Agenda τ (Callback τ)) (firings : List (Agenda.Firing τ))
    (fault : Fault) (last : Agenda τ (Callback τ)) (left : Runs) : Prop where
  takes : Agenda.Takes deadline agenda firings last
  raised : ∃ earlier firing timer work, firings = earlier ++ [firing] ∧
    agenda.get? firing.timer = some timer ∧ timer.callback = some work ∧
    Answers left last.now (work.body {}) (.error fault)

theorem Course.raises
    (course : Course deadline count runs agenda firings (.error fault) last left) :
    Raises deadline agenda firings fault last left := by
  generalize ends : Except.error fault = reply at course
  induction course with
  | arrived => cases ends
  | raised found callback answers =>
      cases ends
      have stored := (Agenda.fireNext?_eq_some found).1
      exact ⟨.one found, [], _, _, _, rfl, stored, callback, answers⟩
  | returned found _ _ _ ih =>
      -- What fired before is another timer, so the one that raises was there from the start.
      obtain ⟨takes, earlier, firing, timer, work, rfl, stored, callback, answers⟩ := ih ends
      have other := takes.ne_of_fireNext? found firing (by simp)
      rw [Agenda.get?_of_fireNext? found, if_neg other] at stored
      exact ⟨.cons found takes, _ :: earlier, firing, timer, work, rfl, stored, callback, answers⟩

/-- Where the callbacks are passive the sweep ends with an answer. -/
theorem Course.ok_of_passive (course : Course deadline count runs agenda firings reply last left)
    (passive : DueCallbacks Passive deadline agenda) : ∃ value, reply = .ok value := by
  cases reply with
  | ok value => exact ⟨value, rfl⟩
  | error fault =>
      obtain ⟨takes, earlier, firing, timer, work, rfl, stored, callback, answers⟩ := course.raises
      obtain ⟨other, found, due, _⟩ := takes.due firing (by simp)
      obtain rfl := Option.some.inj (stored.symm.trans found)
      obtain ⟨same, given, script⟩ := passive firing.timer timer stored due
      obtain rfl := Option.some.inj (callback.symm.trans given)
      exact script.ok_of_answers answers

/-- From a section of an advance on a run gets to the end of the advance, where it leaves the agenda
and the counts of runs and has told of the timers that have fired. -/
def GetsThrough (op : Op τ) (next : Reply τ → Script (Op τ) (Reply τ)) (config : State τ)
    (outcome : Outcome τ) (firings : List (Agenda.Firing τ)) (reply : Reply τ)
    (last : Agenda τ (Callback τ)) (left : Runs) : Prop :=
  ∃ final during,
    machine.Closes op next reply config (Machine.settle config op next outcome) final during ∧
    final.store.agenda = last ∧ final.runs = left ∧ Tells during firings

section GetsThrough

variable {op : Op τ} {next : Reply τ → Script (Op τ) (Reply τ)} {config : State τ} {store : Store τ}

/-- An operation that says that it is over is. -/
theorem getsThrough_answer (reply : Reply τ) :
    GetsThrough op next config (answer store reply) [] reply store.agenda config.runs :=
  ⟨_, _, Machine.closes_finish rfl, rfl, rfl, tells_of_silent (by simp [answer])⟩

/-- A timer fires whose callback is aloof, and the advance goes on with what it replies. -/
theorem getsThrough_firing {fired : Agenda τ (Callback τ)} {id : TimerId}
    {timer : Timer τ (Callback τ)} {work : Work (Op τ) (Reply τ)} {answered : Reply τ}
    (found : store.agenda.fireNext? deadline = some (id, timer, fired))
    (callback : timer.callback = some work)
    (answers : Answers (config.runs.count work.id) fired.now (work.body {}) answered)
    (rest : ∀ resumed : State τ, resumed.store.agenda = fired →
      resumed.runs = config.runs.count work.id →
      GetsThrough op next resumed (resume (.advancing deadline (count + 1)) answered resumed.store)
        firings reply last left) :
    GetsThrough op next config (sweep store deadline count)
      (⟨id, timer.executionTime, fired.now⟩ :: firings) reply last left := by
  obtain ⟨final, inside, during, closes, silent, agenda, runs, tells⟩ :=
    closes_firing found callback answers fun resumed kept ran =>
      rest resumed (congrArg Store.agenda kept) ran
  have own : Tells [.event (.timerFired id timer.executionTime),
      .event (.ran work.id work.name fired.now [])] [⟨id, timer.executionTime, fired.now⟩] :=
    ⟨rfl, rfl⟩
  exact ⟨final, _, closes, agenda, runs, own.append ((tells_of_silent silent).append tells)⟩

/-- A run goes the way that the sweep goes. -/
theorem Course.getsThrough (course : Course deadline count runs agenda firings reply last left)
    (same : store.agenda = agenda) (counted : config.runs = runs) :
    GetsThrough op next config (sweep store deadline count) firings reply last left := by
  induction course generalizing store config with
  | @arrived count runs agenda absent =>
      subst same counted
      have arrives : sweep store deadline count =
          answer { store with agenda := store.agenda.arrive deadline } (.ok (.count count)) := by
        rw [sweep, absent]
      rw [arrives]
      exact getsThrough_answer _
  | raised found callback answers =>
      subst same counted
      apply getsThrough_firing found callback answers
      rintro resumed rfl ran
      rw [← ran]
      exact getsThrough_answer _
  | returned found callback answers _ ih =>
      subst same counted
      exact getsThrough_firing found callback answers fun _ still ran => ih still ran

end GetsThrough

end Course

/-- The outcome of an advance. -/
abbrev Advanced (τ : Type) := Machine.Performed (Op τ) (Reply τ) (Store τ) (Event τ)

/-- An advance whose callbacks are aloof comes to its end. -/
theorem exists_finishes {deadline delay : τ} {store : Store τ}
    (aloof : DueCallbacks Aloof deadline store.agenda)
    (reaches : store.agenda.now + delay = deadline) (runs : Runs) :
    ∃ firings performed, machine.Finishes (.advance (.ok delay)) store runs performed ∧
      Course deadline 0 runs store.agenda firings performed.reply performed.store.agenda
        performed.runs ∧
      Tells performed.trace firings := by
  subst reaches
  obtain ⟨firings, reply, last, left, course⟩ := exists_course aloof 0 runs
  let op : Op τ := .advance (.ok delay)
  let first : State τ := { store := store, runs := runs, script := .perform op }
  let begun : State τ := { first with trace := [.began op 0] }
  have through : GetsThrough op .done begun (start op store) firings reply last left :=
    course.getsThrough rfl rfl
  obtain ⟨final, during, closes, rfl, rfl, tells⟩ := through
  have recorded : final.trace = .began op 0 :: (during ++ [.ended op reply 0]) := closes.trace
  refine ⟨firings, _, (Machine.Closes.performs rfl closes).finishes, course, ?_⟩
  exact recorded ▸ tells.performed op reply 0

/-- Advances to the deadline, one after the other, each of which a callback has ended by raising:
how many they are, what they have recorded, and what the last one has left. -/
inductive Attempts (deadline : τ) (first : Store τ) (runs : Runs) :
    Nat → History τ → Store τ → Runs → Prop where
  | none : Attempts deadline first runs 0 [] first runs
  | again {n : Nat} {earlier : History τ} {store : Store τ} {left : Runs} {delay : τ}
      {performed : Advanced τ} {fault : Fault} :
      Attempts deadline first runs n earlier store left → store.agenda.now + delay = deadline →
      machine.Finishes (.advance (.ok delay)) store left performed →
      performed.reply = .error fault →
      Attempts deadline first runs (n + 1) (earlier ++ performed.trace) performed.store
        performed.runs

/-- What an advance has left that a callback has ended by raising. It was the callback of the timer
that fired last, it raised what the advance raises, and the clock shows the time of this timer, or
what it showed before the advance if that is later. The timers that have fired are spent, and all
others are as they were. -/
structure Interrupted (deadline : τ) (store : Store τ) (performed : Advanced τ) (fault : Fault) :
    Prop where
  raised : ∃ id timer work,
    (timersFired performed.trace).getLast? = some (id, timer.executionTime) ∧
    store.agenda.get? id = some timer ∧ timer.due deadline = true ∧ timer.callback = some work ∧
    Answers performed.runs performed.store.agenda.now (work.body {}) (.error fault) ∧
    Instant.Agree performed.store.agenda.now
      (Instant.later store.agenda.now timer.executionTime)
  timers : ∀ place, performed.store.agenda.get? place =
    if place ∈ (timersFired performed.trace).map Prod.fst then
      (store.agenda.get? place).map Timer.spent
    else store.agenda.get? place

/-- The record tells of the same timers in the same order as that of the advance, at the same
readings, and what is left of the agenda is the same but for the callbacks. -/
structure Matches (history : History τ) (left : Store τ) (whole : Advanced τ) : Prop where
  timers : timersFired history = timersFired whole.trace
  instants : starts history = starts whole.trace
  agenda : left.agenda.bare = whole.store.agenda.bare

section Attempts

variable {deadline : τ} {first store : Store τ} {runs left : Runs} {n : Nat} {earlier : History τ}
variable {firings : List (Agenda.Firing τ)} {history : History τ} {performed : Advanced τ}
variable {fault : Fault}

omit [Instant τ] in
theorem Tells.places (tells : Tells history firings) :
    (timersFired history).map Prod.fst = firings.map Agenda.Firing.timer := by
  rw [tells.timers, List.map_map]
  rfl

/-- What attempts have come to is told by the timers that have fired, one at least in each. -/
theorem Attempts.takes (attempts : Attempts deadline first runs n earlier store left)
    (aloof : DueCallbacks Aloof deadline first.agenda) :
    ∃ firings, Agenda.Takes deadline first.agenda firings store.agenda ∧ Tells earlier firings ∧
      n ≤ firings.length := by
  induction attempts with
  | none => exact ⟨[], .nil, tells_of_silent (by simp), Nat.le_refl _⟩
  | @again n earlier store left delay performed fault _ reaches finishes failed ih =>
      obtain ⟨before, takes, told, fewer⟩ := ih
      obtain ⟨firings, outcome, same, course, tells⟩ :=
        exists_finishes (aloof.takes takes) reaches left
      obtain rfl := finishes.unique same
      rw [failed] at course
      obtain ⟨taken, _, firing, _, _, rfl, _⟩ := course.raises
      refine ⟨_, takes.append taken, told.append tells, ?_⟩
      simp only [List.length_append, List.length_singleton]
      omega

/-- Where an advance is ended by a callback that raises, no timer is lost. -/
theorem interrupted_of_course [Instant.Lawful τ] (comparable : store.agenda.now ≤ store.agenda.now)
    (course : Course deadline 0 left store.agenda firings performed.reply performed.store.agenda
      performed.runs)
    (tells : Tells performed.trace firings) (failed : performed.reply = .error fault) :
    Interrupted deadline store performed fault := by
  rw [failed] at course
  have raises := course.raises
  constructor
  · obtain ⟨before, firing, timer, work, rfl, stored, callback, answers⟩ := raises.raised
    obtain ⟨same, found, due, time⟩ := raises.takes.due firing (by simp)
    obtain rfl := Option.some.inj (stored.symm.trans found)
    refine ⟨firing.timer, timer, work, ?_, stored, due, callback, answers, ?_⟩
    · simp [tells.timers, time]
    · rw [time]
      exact raises.takes.now_agree comparable
  · intro place
    rw [tells.places]
    exact raises.takes.get? place

end Attempts

/-- A callback that raises loses no timer. Suppose that the callbacks of the timers that are due at
the deadline of an advance do nothing to the agenda, but that some of them raise. An advance that is
ended by one of them leaves the clock at the time of its timer, or where it was if that is later.
This timer has fired, and those that have not fired yet are as they were. An advance to the same
deadline can then be tried again, and no more of them are ended in this way than timers are due. The
one that is not leaves the agenda that a single advance would leave whose callbacks return. All of
them together have fired the same timers, each of them once, in the same order and at the same
readings of the clock. -/
theorem retries_lose_no_timer [Instant.Lawful τ] (first calm : Store τ) (runs counts : Runs)
    (delay : τ) (comparable : first.agenda.now ≤ first.agenda.now)
    (same : calm.agenda.bare = first.agenda.bare)
    (aloof : DueCallbacks Aloof (first.agenda.now + delay) first.agenda)
    (passive : DueCallbacks Passive (first.agenda.now + delay) calm.agenda) :
    ∃ whole total, machine.Finishes (.advance (.ok delay)) calm counts whole ∧
      whole.reply = .ok (.count total) ∧ (timersFired whole.trace).length = total ∧
      ((timersFired whole.trace).map Prod.fst).Nodup ∧
      ∀ n earlier store left again,
        Attempts (first.agenda.now + delay) first runs n earlier store left →
        store.agenda.now + again = first.agenda.now + delay →
        n ≤ total ∧ ∃ performed, machine.Finishes (.advance (.ok again)) store left performed ∧
          (∀ fault, performed.reply = .error fault →
            Interrupted (first.agenda.now + delay) store performed fault) ∧
          (∀ value, performed.reply = .ok value →
            Matches (earlier ++ performed.trace) performed.store whole) := by
  have clock : calm.agenda.now + delay = first.agenda.now + delay := by
    have reading : calm.agenda.bare.now = first.agenda.bare.now := by rw [same]
    exact congrArg (· + delay) reading
  have calmAloof : DueCallbacks Aloof (first.agenda.now + delay) calm.agenda := by
    intro id timer stored due
    obtain ⟨work, callback, script⟩ := passive id timer stored due
    exact ⟨work, callback, script.aloof⟩
  obtain ⟨all, whole, finishes, course, told⟩ := exists_finishes calmAloof clock counts
  obtain ⟨value, replied⟩ := course.ok_of_passive passive
  rw [replied] at course
  obtain ⟨rfl, clears⟩ := course.arrives
  -- Callbacks do not decide which timers are taken, so it is compared without them.
  have clearsFirst := clears.map fun _ => ()
  rw [← Agenda.bare, same] at clearsFirst
  rw [Nat.zero_add] at replied
  refine ⟨whole, all.length, finishes, replied, ?_, ?_, ?_⟩
  · rw [told.timers, List.length_map]
  · obtain ⟨middle, takes, _⟩ := clears
    rw [told.places]
    exact takes.nodup
  · intro n earlier store left again attempts reaches
    obtain ⟨before, takes, toldBefore, fewer⟩ := attempts.takes aloof
    obtain ⟨taken, performed, finished, course, tells⟩ :=
      exists_finishes (aloof.takes takes) reaches left
    have begun := clearsFirst.begins (takes.map fun _ => ())
    refine ⟨fewer.trans begun.length_le, performed, finished, ?_, ?_⟩
    · exact fun fault failed =>
        interrupted_of_course (takes.comparable comparable) course tells failed
    · intro value answered
      rw [answered] at course
      have clearsToo := (takes.clears course.arrives.2).map fun _ => ()
      obtain ⟨equal, left⟩ := clearsToo.unique clearsFirst
      have toldAll := toldBefore.append tells
      exact ⟨by rw [toldAll.timers, told.timers, equal],
        by rw [toldAll.instants, told.instants, equal], left⟩

/-- A work that raises. -/
def raising : Work (Op Float) (Reply Float) := .replying [3] (.error (.raised .runtime []))

/-- Timers in the order of their creation, most of which raise: one that was created before two for
an earlier time, one for no number, and one that is overdue. -/
def troubled : Agenda Float (Callback Float) where
  now := 0
  timers := [
    { executionTime := 2, callback := some raising },
    { executionTime := 1, callback := some (.resting [0]) },
    { executionTime := 1, callback := some raising },
    { executionTime := 0 / 0, callback := some raising },
    { executionTime := -1, callback := some raising }]

theorem exists_error_of_toBool {τ : Type} {reply : Reply τ} (failed : reply.toBool = false) :
    ∃ fault, reply = .error fault := by
  cases reply with
  | ok => cases failed
  | error fault => exact ⟨fault, rfl⟩

theorem exists_ok_of_toBool {τ : Type} {reply : Reply τ} (answered : reply.toBool = true) :
    ∃ value, reply = .ok value := by
  cases reply with
  | ok value => exact ⟨value, rfl⟩
  | error => cases answered

/-- Three advances to the third second are ended by callbacks that raise: at the overdue timer, at
the second one for the first second, and at the one for the second second. The fourth advance comes
to its end. -/
theorem retries_lose_no_timer_of_troubled :
    let first : Store Float := { agenda := troubled }
    let calm : Store Float := { agenda := troubled.map fun _ => some (.resting [0]) }
    ∃ whole earlier store left performed,
      machine.Finishes (.advance (.ok 3)) calm Runs.none whole ∧
      (timersFired whole.trace).map Prod.fst = [4, 1, 2, 0] ∧
      starts whole.trace = [0, 1, 1, 2] ∧
      Attempts (0 + 3) first Runs.none 3 earlier store left ∧ store.agenda.now = 2 ∧
      machine.Finishes (.advance (.ok 1)) store left performed ∧
      Matches (earlier ++ performed.trace) performed.store whole := by
  intro first calm
  have due : DueCallbacks Aloof (0 + 3) first.agenda := by
    have all : ∀ timer ∈ first.agenda.timers, ∃ work, timer.callback = some work ∧
        Aloof (work.body {}) := by
      simp only [first, troubled, List.forall_mem_cons]
      exact ⟨⟨_, rfl, .done _⟩, ⟨_, rfl, .done _⟩, ⟨_, rfl, .done _⟩, ⟨_, rfl, .done _⟩,
        ⟨_, rfl, .done _⟩, by simp⟩
    exact fun id timer stored _ => all timer (List.mem_of_getElem? stored)
  have calms : DueCallbacks Passive (0 + 3) calm.agenda := by
    intro id timer stored _
    obtain ⟨before, _, rfl⟩ := List.mem_map.mp (List.mem_of_getElem? stored)
    exact ⟨.resting [0], rfl, passive_resting _⟩
  obtain ⟨whole, total, finishes, _, _, _, retries⟩ :=
    retries_lose_no_timer first calm Runs.none Runs.none 3 (by decide +kernel) rfl due calms
  let one := (machine.perform? 12 (.advance (.ok 3)) first Runs.none).get (by decide +kernel)
  let two := (machine.perform? 12 (.advance (.ok 3)) one.store one.runs).get (by decide +kernel)
  let three := (machine.perform? 12 (.advance (.ok 2)) two.store two.runs).get (by decide +kernel)
  let four := (machine.perform? 12 (.advance (.ok 1)) three.store three.runs).get
    (by decide +kernel)
  have tried : machine.Finishes (.advance (.ok 3)) first Runs.none one :=
    Machine.finishes_of_perform? (Option.some_get _).symm
  have again : machine.Finishes (.advance (.ok 3)) one.store one.runs two :=
    Machine.finishes_of_perform? (Option.some_get _).symm
  have onceMore : machine.Finishes (.advance (.ok 2)) two.store two.runs three :=
    Machine.finishes_of_perform? (Option.some_get _).symm
  have last : machine.Finishes (.advance (.ok 1)) three.store three.runs four :=
    Machine.finishes_of_perform? (Option.some_get _).symm
  obtain ⟨_, failed⟩ := exists_error_of_toBool (by decide +kernel : one.reply.toBool = false)
  obtain ⟨_, failedAgain⟩ := exists_error_of_toBool (by decide +kernel : two.reply.toBool = false)
  obtain ⟨_, failedOnceMore⟩ :=
    exists_error_of_toBool (by decide +kernel : three.reply.toBool = false)
  have attempts : Attempts (0 + 3) first Runs.none 3 _ three.store three.runs :=
    .again (.again (.again .none rfl tried failed) (by decide +kernel) again failedAgain)
      (by decide +kernel) onceMore failedOnceMore
  obtain ⟨_, performed, same, _, completes⟩ := retries 3 _ _ _ 1 attempts (by decide +kernel)
  obtain rfl := last.unique same
  obtain ⟨value, answered⟩ := exists_ok_of_toBool (by decide +kernel : four.reply.toBool = true)
  have all := completes value answered
  refine ⟨whole, _, _, _, four, finishes, ?_, ?_, attempts, by decide +kernel, last, all⟩
  · rw [← all.timers]
    decide +kernel
  · rw [← all.instants]
    decide +kernel

end TimerSession

end Debounce
