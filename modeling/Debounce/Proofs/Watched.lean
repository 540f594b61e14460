import Debounce.Proofs.Acts
import Debounce.Proofs.Endings
import Debounce.Proofs.Waiter

/-!
# The waiters of a session

A session lets its timers fire when it settles, one after the other, and each is handed to the pool
at once. So what happens to a timer of a session is among the things that can happen to a timer with
a waiter of its own, and what holds of those in any order holds in sessions.
-/

namespace Debounce

variable {τ : Type} [Instant τ]

/-! ## Agendas -/

/-- The timer at the place is the one with the waiter, who is not about to hand it over. -/
structure Watch.Fits {κ : Type} (watch : Watch τ κ) (agenda : Agenda τ κ) (id : TimerId) :
    Prop where
  clock : watch.clock = agenda.now
  stored : agenda.get? id = some watch.timer
  stays : watch.waiter ≠ .leaving

namespace Agenda

variable {κ : Type} {agenda other : Agenda τ κ} {id : TimerId} {handed : Nat}

/-- What has happened to the timer at the place can happen to one with a waiter, and it has been
handed over so often. -/
def Watched (agenda : Agenda τ κ) (id : TimerId) (handed : Nat) : Prop :=
  ∃ clock time callback record watch, Watch.Run (Watch.set clock time callback) record watch ∧
    watch.Fits agenda id ∧ record.countP Watch.Occurrence.handsOver = handed

theorem watched_add (agenda : Agenda τ κ) (time : τ) (callback : κ) :
    (agenda.add time callback).2.Watched agenda.timers.length 0 := by
  refine ⟨agenda.now, time, callback, [], _, .start, ?_, rfl⟩
  exact ⟨rfl, by simp [get?_add, Watch.set], by simp [Watch.set]⟩

theorem Watched.lt_length (watched : agenda.Watched id handed) : id < agenda.timers.length := by
  obtain ⟨_, _, _, _, _, _, fits, _⟩ := watched
  exact (List.getElem?_eq_some_iff.mp fits.stored).1

/-- What may happen to a watched timer while its waiter waits has happened when the agenda shows
it. -/
theorem Watched.step (watched : agenda.Watched id handed)
    (steps : ∀ watch : Watch τ κ, watch.Fits agenda id → ∃ occurrence next,
      Watch.Step watch occurrence next ∧ next.Fits other id ∧ occurrence.handsOver = false) :
    other.Watched id handed := by
  obtain ⟨clock, time, callback, record, watch, run, fits, counted⟩ := watched
  obtain ⟨occurrence, next, step, fitsNext, kept⟩ := steps watch fits
  refine ⟨clock, time, callback, _, next, run.step step, fitsNext, ?_⟩
  rw [List.countP_append, counted, List.countP_singleton, kept]
  rfl

/-- A timer that stays as it is goes on being watched, by whatever clock. -/
theorem Watched.of_same (watched : agenda.Watched id handed)
    (same : other.get? id = agenda.get? id) : other.Watched id handed := by
  apply watched.step
  intro watch fits
  exact ⟨_, _, .setClock other.now, ⟨rfl, same.trans fits.stored, fits.stays⟩, rfl⟩

theorem Watched.add (watched : agenda.Watched id handed) (time : τ) (callback : κ) :
    (agenda.add time callback).2.Watched id handed := by
  apply watched.of_same
  rw [get?_add, if_neg (Nat.ne_of_lt watched.lt_length)]

/-- A change of timers that may happen to one with a waiter may happen to any in the agenda. -/
theorem Watched.update (watched : agenda.Watched id handed) (place : TimerId)
    {change : Timer τ κ → Bool × Timer τ κ}
    (steps : ∀ watch : Watch τ κ, ∃ occurrence, occurrence.handsOver = false ∧
      Watch.Step watch occurrence { watch with timer := (change watch.timer).2 }) :
    (agenda.update place change).2.Watched id handed := by
  by_cases same : id = place
  · subst same
    apply watched.step
    intro watch fits
    obtain ⟨occurrence, kept, step⟩ := steps watch
    refine ⟨occurrence, _, step, ⟨?_, ?_, fits.stays⟩, kept⟩
    · exact fits.clock.trans (now_update _ _ _).symm
    · rw [get?_update, if_pos rfl, fits.stored, Option.map_some]
  · apply watched.of_same
    rw [get?_update, if_neg same]

theorem Watched.touches (watched : agenda.Watched id handed) (touches : agenda.Touches other) :
    other.Watched id handed := by
  cases touches with
  | still => exact watched
  | cancelled place => exact watched.update place fun watch => ⟨_, rfl, .cancel⟩
  | moved place time => exact watched.update place fun watch => ⟨_, rfl, .reschedule time⟩

/-- The next timer that has expired is checked by its waiter and handed over. -/
theorem Watched.expire {place : TimerId} {timer : Timer τ κ}
    (found : agenda.expireNext? = some (place, timer, other)) (watched : agenda.Watched id handed) :
    other.Watched id (if id = place then handed + 1 else handed) := by
  obtain ⟨expiring, expired, rfl⟩ := expireNext?_eq_update found
  split
  · next same =>
      subst same
      obtain ⟨clock, time, callback, record, watch, run, fits, counted⟩ := watched
      obtain rfl := Option.some.inj (expiring.symm.trans fits.stored)
      have looks : watch.waiter = .watching := by
        have stage := Watch.consistent_of_run run
        rw [Watch.Consistent, Timer.active_iff.mp (Timer.expired_iff.mp expired).1] at stage
        exact stage.watching_of_pending
      have fires := Timer.check_of_expired (fits.clock ▸ expired)
      have leaves : watch.check.waiter = .leaving := by
        rw [Watch.check, fires]
        rfl
      have runs := (run.step (.check looks)).step (.handOver leaves)
      refine ⟨clock, time, callback, _, _, runs, ⟨?_, ?_, by simp⟩, ?_⟩
      · exact fits.clock.trans (now_update _ _ _).symm
      · rw [get?_update, if_pos rfl, fits.stored, Option.map_some, ← fits.clock]
        rfl
      · simp [Watch.Occurrence.handsOver, counted]
  · next different =>
      apply watched.of_same
      rw [get?_update, if_neg different]

/-- Every timer that there is has been watched, and the other ones have not been handed over. -/
structure Watching (agenda : Agenda τ κ) (handed : TimerId → Nat) : Prop where
  watched : ∀ id < agenda.timers.length, agenda.Watched id (handed id)
  unset : ∀ id, agenda.timers.length ≤ id → handed id = 0

section Watching

variable {handed : TimerId → Nat}

theorem Watching.of_watched (watching : agenda.Watching handed)
    (length : other.timers.length = agenda.timers.length)
    (each : ∀ id handed, agenda.Watched id handed → other.Watched id handed) :
    other.Watching handed where
  watched id below := each _ _ (watching.watched id (length ▸ below))
  unset id above := watching.unset id (length ▸ above)

theorem Watching.of_timers (watching : agenda.Watching handed)
    (same : other.timers = agenda.timers) : other.Watching handed := by
  apply watching.of_watched (congrArg List.length same)
  intro id handed watched
  exact watched.of_same (by rw [get?, get?, same])

theorem Watching.touches (watching : agenda.Watching handed) (touches : agenda.Touches other) :
    other.Watching handed :=
  watching.of_watched touches.keeps.length fun _ _ watched => watched.touches touches

theorem Watching.add (watching : agenda.Watching handed) (time : τ) (callback : κ) :
    (agenda.add time callback).2.Watching handed where
  watched id below := by
    rw [Agenda.add, List.length_append, List.length_singleton] at below
    rcases Nat.lt_succ_iff_lt_or_eq.mp below with old | rfl
    · exact (watching.watched id old).add time callback
    · rw [watching.unset _ (Nat.le_refl _)]
      exact watched_add agenda time callback
  unset id above := by
    rw [Agenda.add, List.length_append] at above
    exact watching.unset id (Nat.le_of_add_right_le above)

theorem Watching.expire {place : TimerId} {timer : Timer τ κ}
    (found : agenda.expireNext? = some (place, timer, other)) (watching : agenda.Watching handed) :
    other.Watching fun id => if id = place then handed id + 1 else handed id := by
  have same := (expireNext?_eq_some found).2.2.1.length
  constructor
  · intro id below
    exact (watching.watched id (same ▸ below)).expire found
  · intro id above
    have stored := (List.getElem?_eq_some_iff.mp (expireNext?_eq_some found).1).1
    have later : agenda.timers.length ≤ id := same ▸ above
    rw [if_neg (Nat.ne_of_gt (Nat.lt_of_lt_of_le stored later))]
    exact watching.unset id later

end Watching

end Agenda

/-! ## Sessions -/

/-- The callback of the timer goes to the pool, which may not be there to take it over. -/
def Event.handsOver (id : TimerId) : Event τ → Bool
  | .handedOver other | .handOverFailed other _ _ => id = other
  | _ => false

omit [Instant τ] in
theorem Event.concernsPool_of_handsOver {id : TimerId} (event : Event τ)
    (hands : event.handsOver id = true) : event.concernsPool = true := by
  cases event <;> first | rfl | cases hands

namespace BackgroundSession

/-- The section keeps every timer watched. -/
def Attends (store : Store τ) (outcome : Outcome τ) : Prop :=
  ∀ handed, store.agenda.Watching handed →
    outcome.store.agenda.Watching fun id => handed id + outcome.events.countP (Event.handsOver id)

section Sections

variable {store : Store τ} {outcome : Outcome τ} {earlier : List (Event τ)} {id : TimerId}

/-- A section that hands nothing over in its report keeps every timer watched. -/
theorem ActsAfter.attends (acts : ActsAfter earlier store outcome)
    (silent : ∀ id, earlier.countP (Event.handsOver id) = 0) : Attends store outcome := by
  obtain ⟨rest, acts, _, rfl⟩ := acts
  intro handed watching
  simp only [List.countP_append, silent, Nat.zero_add]
  have quietly (aside : Aside rest) (kept : rest.store.agenda.Watching handed) :
      rest.store.agenda.Watching fun id => handed id + rest.events.countP (Event.handsOver id) := by
    simpa only [Event.countP_of_aside Event.concernsPool_of_handsOver aside.silent, Nat.add_zero]
      using kept
  have expires {place : TimerId} {timer : Timer τ (Deferred τ)}
      (expired : store.agenda.expireNext? = some (place, timer, rest.store.agenda))
      (told : ∀ id, rest.events.countP (Event.handsOver id) = if id = place then 1 else 0) :
      rest.store.agenda.Watching fun id => handed id + rest.events.countP (Event.handsOver id) := by
    convert watching.expire expired using 2 with id
    rw [told]
    split <;> rfl
  cases acts with
  | touches aside touches => exact quietly aside (watching.touches touches)
  | finishes aside _ left =>
      apply quietly aside
      rcases left with same | ⟨time, deferred, sets⟩
      · exact watching.of_timers same
      · rw [sets]
        exact watching.add time deferred
  | fires fires =>
      cases fires with
      | refused expired events _ =>
          apply expires expired
          simp [events, Event.handsOver]
      | handed expired events aside _ _ =>
          apply expires expired
          simp [events, List.countP_cons, Event.handsOver,
            Event.countP_of_aside Event.concernsPool_of_handsOver aside]

end Sections

/-! ## Runs -/

section Runs

variable {first last : State τ}

end Runs

end BackgroundSession

end Debounce
