import Debounce.Proofs.Contexts
import Debounce.Proofs.Watched

/-!
# The fates of timers

A timer that fires on the pool is handed over, and then its callback runs and replies; or it cannot
be handed over, and its callback never runs. A callback that fails is reported when it has replied,
and a hand-over that fails where it is tried. So each timer that has fired has one fate, and a
failure is reported once: the operation that lets timers fire goes on in either case, and the
operations that move the clock or set timers are over by then.
-/

namespace Debounce

variable {τ : Type}

/-! ## Reports -/

namespace Event

variable {id : TimerId} {event : Event τ} {events : List (Event τ)}

/-- The pool takes over the callback of the timer. -/
def takesOver (id : TimerId) : Event τ → Bool
  | handedOver other => id = other
  | _ => false

/-- The pool cannot take over the callback of the timer. -/
def refuses (id : TimerId) : Event τ → Bool
  | handOverFailed other _ _ => id = other
  | _ => false

/-- A work has failed that ran for the timer, or for no timer. -/
def fails (timer? : Option TimerId) : Event τ → Bool
  | workFailed other _ => timer? = other
  | _ => false

/-- The event reports a failure for the timer. -/
def reports (id : TimerId) (event : Event τ) : Bool := event.refuses id || event.fails (some id)

theorem concernsPool_of_takesOver (event : Event τ) (takes : event.takesOver id = true) :
    event.concernsPool = true := by
  cases event <;> first | rfl | cases takes

theorem concernsPool_of_fails {timer? : Option TimerId} (event : Event τ)
    (fails : event.fails timer? = true) : event.concernsPool = true := by
  cases event <;> first | rfl | cases fails

theorem countP_handsOver :
    events.countP (handsOver id) = events.countP (takesOver id) + events.countP (refuses id) := by
  induction events with
  | nil => rfl
  | cons event rest ih =>
      rw [List.countP_cons, List.countP_cons, List.countP_cons, ih]
      cases event <;> simp [handsOver, takesOver, refuses] <;> omega

end Event

namespace BackgroundSession

/-! ## Accounts -/

/-- The operation waits for the callback of the timer. -/
def Frame.awaits (id : TimerId) (frame : Frame τ) : Bool := frame.timer? = some id

/-- What the callback of the timer has replied, each time that an operation has gone on with it. -/
def repliesOf (id : TimerId) (past : List (Frame τ × Reply τ)) : List (Reply τ) :=
  past.filterMap fun (frame, reply) => if frame.awaits id then some reply else none

/-- What there is to say about the callback of a timer. -/
structure Account (τ : Type) where
  /-- How often the pool has taken it over. -/
  handed : Nat
  /-- How often it has not replied yet. -/
  running : Nat
  /-- What it has replied. -/
  replies : List (Reply τ)
  /-- The failures that have been reported for its timer. -/
  reports : List (Event τ)

/-- Nothing has happened to the callback. -/
def Account.blank : Account τ := ⟨0, 0, [], []⟩

/-- The account of a timer, from the operations that are suspended, the events so far and where the
run has gone on. -/
def Account.of (id : TimerId) (frames : List (Frame τ)) (events : List (Event τ))
    (past : List (Frame τ × Reply τ)) : Account τ where
  handed := events.countP (Event.takesOver id)
  running := frames.countP (Frame.awaits id)
  replies := repliesOf id past
  reports := events.filter (Event.reports id)

/-- A callback has been taken over as often as it runs or has replied, and the failures that have
been reported of it are those that it has replied. -/
structure Tallied (id : TimerId) (frames : List (Frame τ)) (events : List (Event τ))
    (past : List (Frame τ × Reply τ)) : Prop where
  handed : events.countP (Event.takesOver id) =
    frames.countP (Frame.awaits id) + (repliesOf id past).length
  failed : events.filter (Event.fails (some id)) = (repliesOf id past).flatMap (failure (some id))

variable [Instant τ]

section Accounts

variable {id : TimerId} {frame : Frame τ} {frames : List (Frame τ)} {events : List (Event τ)}
variable {past : List (Frame τ × Reply τ)} {outcome : Outcome τ} {agenda : Agenda τ (Deferred τ)}
variable {held : Option (Work (Op τ) (Reply τ))}

omit [Instant τ] in
theorem awaits_of_settles (aside : frame.settles = false) : frame.awaits id = false := by
  cases frame <;> first | rfl | cases aside

/-- Apart from the report that a section may begin with, it reports no failure of a work. -/
theorem Acts.filter_fails (acts : Acts agenda held outcome) (timer? : Option TimerId) :
    outcome.events.filter (Event.fails timer?) = [] := by
  cases acts with
  | touches aside | finishes aside =>
      exact Event.filter_of_aside Event.concernsPool_of_fails aside.silent
  | fires fires =>
      cases fires with
      | refused _ events _ => simp [events, Event.fails]
      | handed _ events silent _ _ =>
          rw [events, List.filter_cons_of_neg (by simp [Event.fails])]
          exact Event.filter_of_aside Event.concernsPool_of_fails silent

/-- A callback that is taken over is waited for. -/
theorem Acts.countP_takesOver (acts : Acts agenda held outcome) (id : TimerId) :
    outcome.events.countP (Event.takesOver id) =
      outcome.next.frame?.toList.countP (Frame.awaits id) := by
  have nothing (aside : Aside outcome) : outcome.events.countP (Event.takesOver id) =
      outcome.next.frame?.toList.countP (Frame.awaits id) := by
    rw [Event.countP_of_aside Event.concernsPool_of_takesOver aside.silent, eq_comm,
      List.countP_eq_zero]
    intro frame member
    simp [awaits_of_settles (aside.frame frame (Option.mem_toList.mp member))]
  cases acts with
  | touches aside | finishes aside => exact nothing aside
  | fires fires =>
      cases fires with
      | refused _ events next =>
          simp [events, next, Next.frame?, Event.takesOver, Frame.awaits, Frame.timer?]
      | handed _ events silent frame _ =>
          rw [events, frame, List.countP_cons,
            Event.countP_of_aside Event.concernsPool_of_takesOver silent]
          simp [Event.takesOver, Frame.awaits, Frame.timer?, eq_comm]

theorem Tallied.acts (tallied : Tallied id frames events past) (acts : Acts agenda held outcome) :
    Tallied id (outcome.next.frame?.toList ++ frames) (events ++ outcome.events) past where
  handed := by
    rw [List.countP_append, List.countP_append, tallied.handed, acts.countP_takesOver]
    omega
  failed := by
    rw [List.filter_append, acts.filter_fails, List.append_nil]
    exact tallied.failed

omit [Instant τ] in
theorem countP_takesOver_begun (op : Op τ) : op.blame.countP (Event.takesOver id) = 0 := by
  rw [Op.blame.eq_def]
  split <;> rfl

omit [Instant τ] in
theorem filter_fails_begun (op : Op τ) : op.blame.filter (Event.fails (some id)) = [] := by
  rw [Op.blame.eq_def]
  split <;> rfl

omit [Instant τ] in
/-- What an operation reports when it begins is no failure of a callback. -/
theorem Tallied.begun (tallied : Tallied id frames events past) (op : Op τ) :
    Tallied id frames (events ++ op.blame) past where
  handed := by
    rw [List.countP_append, countP_takesOver_begun]
    exact tallied.handed
  failed := by
    rw [List.filter_append, filter_fails_begun, List.append_nil]
    exact tallied.failed

omit [Instant τ] in
/-- Nothing has happened to a callback that was not to be handed over. -/
theorem Tallied.blank (tallied : Tallied id frames events past)
    (never : events.countP (Event.handsOver id) = 0) :
    Account.of id frames events past = .blank := by
  rw [Event.countP_handsOver] at never
  have handed := tallied.handed
  have failed := tallied.failed
  have nothing : events.countP (Event.takesOver id) = 0 := by omega
  have running : frames.countP (Frame.awaits id) = 0 := by omega
  have replies : repliesOf id past = [] := List.length_eq_zero_iff.mp (by omega)
  have taken : events.countP (Event.refuses id) = 0 := by omega
  rw [replies, List.flatMap_nil] at failed
  have reports : events.filter (Event.reports id) = [] := by
    rw [List.filter_eq_nil_iff]
    intro event member
    have unfailing := List.filter_eq_nil_iff.mp failed event member
    have taking := List.countP_eq_zero.mp taken event member
    simp [Event.reports, unfailing, taking]
  rw [Account.of, nothing, running, replies, reports, Account.blank]

end Accounts

/-! ## Runs -/

section Runs

variable {first state next : State τ} {store : Store τ} {outcome : Outcome τ}
variable {agenda : Agenda τ (Deferred τ)} {held : Option (Work (Op τ) (Reply τ))}
variable {earlier : List (Event τ)}

theorem ActsAfter.tallied {id : TimerId} {frames : List (Frame τ)} {events : List (Event τ)}
    {past : List (Frame τ × Reply τ)} (acts : ActsAfter earlier store outcome)
    (tallied : Tallied id frames (events ++ earlier) past) :
    Tallied id (outcome.next.frame?.toList ++ frames) (events ++ outcome.events) past := by
  obtain ⟨rest, acts, _, rfl⟩ := acts
  rw [← List.append_assoc]
  exact tallied.acts acts

/-- The pool takes a timer over that was pending, and its callback is what runs then. -/
theorem ActsAfter.handedOver {id : TimerId} (acts : ActsAfter earlier store outcome)
    (silent : earlier.countP (Event.takesOver id) = 0) (member : .handedOver id ∈ outcome.events) :
    ∃ timer context, store.agenda.get? id = some timer ∧ timer.active = true ∧
      outcome.next.frame? = some (.settling (some id) context) ∧
      outcome.next.script? = some (callback (timer.callback.task.work? store.held)) := by
  obtain ⟨rest, acts, _, rfl⟩ := acts
  rcases List.mem_append.mp member with before | reported
  · have never := List.countP_eq_zero.mp silent _ before
    simp [Event.takesOver] at never
  · cases acts with
    | touches aside | finishes aside => cases aside.silent _ reported
    | fires fires =>
        cases fires with
        | refused _ events _ => simp [events] at reported
        | @handed place timer _ context told expired events silent frame script =>
            rw [events, List.mem_cons] at reported
            rcases reported with same | later
            · obtain rfl : id = place := Event.handedOver.inj same
              obtain ⟨stored, active, _, _⟩ := Agenda.expireNext?_eq_some expired
              exact ⟨timer, context, stored, active, frame, script⟩
            · cases silent _ later

end Runs

end BackgroundSession

end Debounce
