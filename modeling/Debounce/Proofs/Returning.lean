import Debounce.Proofs.Pooled
import Debounce.Proofs.Strands

/-!
# The contexts that are returned to

While the work of a timer runs, the context of the strand below it waits in a frame. So the frames
and the timers tell which context every strand has, and the sections of operations keep them in
agreement with what has been noted of the run.
-/

namespace Debounce.BackgroundSession

variable {τ : Type} [Instant τ]

/-- The timers whose works run, the innermost first. -/
def running : List (Frame τ) → List TimerId
  | [] => []
  | .settling (some id) _ :: below => id :: running below
  | _ :: below => running below

/-- The strand that runs inside the frames. -/
def strand (frames : List (Frame τ)) : Strand :=
  ((running frames).head?.map Strand.timer).getD .program

/-- Each timer whose work runs has ended, it runs once, and the context that is returned to is
that of the strand below. -/
inductive Returns (agenda : Agenda τ (Deferred τ)) (contexts : Strand → Fields) :
    List (Frame τ) → Prop where
  | nil : Returns agenda contexts []
  | serving {tail : Tail τ} {below : List (Frame τ)} :
      Returns agenda contexts below → Returns agenda contexts (.serving tail :: below)
  | settling {timer : TimerId} {context : Fields} {below : List (Frame τ)} :
      agenda.Ended timer → timer ∉ running below → context = contexts (strand below) →
      Returns agenda contexts below →
      Returns agenda contexts (.settling (some timer) context :: below)

section Returns

variable {agenda other : Agenda τ (Deferred τ)} {left right : Strand → Fields}
variable {frames : List (Frame τ)}

omit [Instant τ] in
theorem strand_eq (frames : List (Frame τ)) :
    strand frames = .program ∨ ∃ timer ∈ running frames, strand frames = .timer timer := by
  rw [strand]
  cases running frames with
  | nil => exact .inl rfl
  | cons timer rest => exact .inr ⟨timer, List.mem_cons_self, rfl⟩

omit [Instant τ] in
/-- An operation that runs a work in its own context stays on its strand. -/
theorem strand_append_serving {next : Option (Frame τ)}
    (serves : ∀ frame, next = some frame → ∃ tail, frame = .serving tail)
    (frames : List (Frame τ)) : strand (next.toList ++ frames) = strand frames := by
  cases next with
  | none => rfl
  | some frame =>
      obtain ⟨tail, rfl⟩ := serves frame rfl
      rfl

omit [Instant τ] in
theorem Returns.ended (returns : Returns agenda left frames) :
    ∀ timer ∈ running frames, agenda.Ended timer := by
  induction returns with
  | nil => simp [running]
  | serving _ ih => exact ih
  | settling ended _ _ _ ih =>
      intro timer member
      rcases List.mem_cons.mp member with rfl | below
      · exact ended
      · exact ih timer below

omit [Instant τ] in
/-- What is returned to does not change where the strands that run bind nothing. -/
theorem Returns.congr (returns : Returns agenda left frames)
    (program : right .program = left .program)
    (same : ∀ timer ∈ running frames, right (.timer timer) = left (.timer timer)) :
    Returns agenda right frames := by
  induction returns with
  | nil => exact .nil
  | serving _ ih => exact .serving (ih same)
  | @settling timer context below ended fresh context_eq returns ih =>
      have sameBelow : ∀ other ∈ running below, right (.timer other) = left (.timer other) :=
        fun other member => same other (List.mem_cons_of_mem _ member)
      refine .settling ended fresh ?_ (ih sameBelow)
      rw [context_eq]
      rcases strand_eq below with program_eq | ⟨other, member, other_eq⟩
      · rw [program_eq, program]
      · rw [other_eq, sameBelow other member]

omit [Instant τ] in
/-- What the innermost strand binds is not returned to. -/
theorem Returns.rebind (returns : Returns agenda left frames) (context : Fields) :
    Returns agenda (Function.update left (strand frames) context) frames := by
  induction returns with
  | nil => exact .nil
  | serving _ ih => exact .serving ih
  | @settling timer returning below ended fresh context_eq returns _ =>
      have other : ∀ strand, strand ≠ .timer timer →
          Function.update left (.timer timer) context strand = left strand :=
        fun strand different => Function.update_of_ne different _ _
      have apart : ∀ inner ∈ running below, Strand.timer inner ≠ .timer timer := by
        rintro inner member same
        exact fresh (Strand.timer.inj same ▸ member)
      refine .settling ended fresh ?_ (returns.congr (other _ (by simp)) fun inner member =>
        other _ (apart inner member))
      rw [context_eq]
      symm
      apply other
      rcases strand_eq below with program_eq | ⟨inner, member, inner_eq⟩
      · simp [program_eq]
      · exact inner_eq ▸ apart inner member

omit [Instant τ] in
theorem Returns.of_ended (returns : Returns agenda left frames)
    (ended : ∀ timer, agenda.Ended timer → other.Ended timer) : Returns other left frames := by
  induction returns with
  | nil => exact .nil
  | serving _ ih => exact .serving ih
  | settling before fresh context_eq _ ih => exact .settling (ended _ before) fresh context_eq ih

end Returns

/-- What has been noted of a run agrees with what the session knows: the current context is that
of the strand that runs, and the strand of a pending timer has the context that the timer holds.
-/
structure Coherent (initial : Fields) (notes : List ContextNote) (store : Store τ)
    (frames : List (Frame τ)) : Prop where
  ready : Ready store
  context : store.context = contexts initial notes (strand frames)
  returns : Returns store.agenda (contexts initial notes) frames
  waiting : ∀ id timer, store.agenda.get? id = some timer → timer.active = true →
    contexts initial notes (.timer id) = timer.callback.context

section Coherent

variable {initial : Fields} {notes : List ContextNote} {store other : Store τ}
variable {frames : List (Frame τ)} {outcome : Outcome τ}

omit [Instant τ] in
theorem Coherent.of_serving {tail : Tail τ}
    (coherent : Coherent initial notes store (.serving tail :: frames)) :
    Coherent initial notes store frames := by
  obtain ⟨ready, context, returns, waiting⟩ := coherent
  cases returns with
  | serving below => exact ⟨ready, context, below, waiting⟩

omit [Instant τ] in
/-- Where the work of a timer has ended, its strand is left. -/
theorem Coherent.of_settling {timer : Option TimerId} {returning : Fields}
    (coherent : Coherent initial notes store (.settling timer returning :: frames)) :
    Coherent initial notes { store with context := returning } frames := by
  obtain ⟨ready, _, returns, waiting⟩ := coherent
  cases returns with
  | settling _ _ context below =>
      have readyAfter : Ready { store with context := returning } :=
        ready.of_keeps rfl rfl (Agenda.keeps_of_timers rfl)
      exact ⟨readyAfter, context, below, waiting⟩

omit [Instant τ] in
/-- A strand whose work runs is not that of a pending timer. -/
theorem Coherent.strand_ne (coherent : Coherent initial notes store frames) {id : TimerId}
    {timer : Timer τ (Deferred τ)} (stored : store.agenda.get? id = some timer)
    (active : timer.active = true) : Strand.timer id ≠ strand frames := by
  intro same
  rcases strand_eq frames with program | ⟨runs, member, runs_eq⟩
  · cases same.trans program
  · obtain rfl := Strand.timer.inj (same.trans runs_eq)
    have pending := (coherent.returns.ended _ member).not_pending
    simp [Agenda.isPending, stored, active] at pending

omit [Instant τ] in
theorem Coherent.rebind (coherent : Coherent initial notes store frames)
    (change : Fields → Fields) :
    Coherent initial (notes ++ [.changed (strand frames) change])
      { store with context := change store.context } frames where
  ready := coherent.ready.of_keeps rfl rfl (Agenda.keeps_of_timers rfl)
  context := by simp [ContextNote.apply, coherent.context]
  returns := by
    rw [contexts_append]
    exact coherent.returns.rebind _
  waiting id timer stored active := by
    have other := coherent.strand_ne stored active
    rw [contexts_append, ContextNote.apply, Function.update_of_ne other]
    exact coherent.waiting id timer stored active

omit [Instant τ] in
theorem Coherent.of_keeps (coherent : Coherent initial notes store frames) (ready : Ready other)
    (context : other.context = store.context) (keeps : store.agenda.Keeps other.agenda) :
    Coherent initial notes other frames where
  ready := ready
  context := context.trans coherent.context
  returns := coherent.returns.of_ended fun _ ended => keeps.ended ended
  waiting id timer stored active := by
    obtain ⟨former, found, same, activeBefore⟩ := keeps.former id timer stored
    rw [same]
    exact coherent.waiting id former found (activeBefore active)

omit [Instant τ] in
/-- A timer that fires begins in the context that it was set in. -/
theorem Coherent.fires (coherent : Coherent initial notes store frames) {id : TimerId}
    {timer : Timer τ (Deferred τ)} (fires : Fires store outcome id timer) :
    Coherent initial notes outcome.store (.settling (some id) store.context :: frames) := by
  have fresh : id ∉ running frames := by
    intro member
    have pending := (coherent.returns.ended id member).not_pending
    simp [Agenda.isPending, fires.stored, fires.active] at pending
  have left : Coherent initial notes { outcome.store with context := store.context } frames :=
    coherent.of_keeps (fires.ready.of_keeps rfl rfl (Agenda.keeps_of_timers rfl)) rfl fires.keeps
  have returns := Returns.settling fires.ended fresh coherent.context left.returns
  refine ⟨fires.ready, ?_, returns, left.waiting⟩
  rw [fires.context, ← coherent.waiting id timer fires.stored fires.active]
  rfl

omit [Instant τ] in
/-- A timer that is set begins with a copy of the context of the strand that sets it. -/
theorem Coherent.opens (coherent : Coherent initial notes store frames)
    (opens : Opens store outcome) :
    Coherent initial (notes ++ [.scheduled store.agenda.timers.length (strand frames)])
      outcome.store frames := by
  obtain ⟨time, task, sets⟩ := opens.sets
  have noted : contexts initial
      (notes ++ [.scheduled store.agenda.timers.length (strand frames)]) =
        Function.update (contexts initial notes) (.timer store.agenda.timers.length)
          (contexts initial notes (strand frames)) := contexts_append _ _
  have old : ∀ id < store.agenda.timers.length,
      Strand.timer id ≠ .timer store.agenda.timers.length :=
    fun id below same => Nat.ne_of_lt below (Strand.timer.inj same)
  have runs : ∀ id ∈ running frames, Strand.timer id ≠ .timer store.agenda.timers.length :=
    fun id member => old id (coherent.returns.ended id member).lt_length
  refine ⟨opens.ready, ?_, ?_, ?_⟩
  · have different : strand frames ≠ .timer store.agenda.timers.length := by
      rcases strand_eq frames with program | ⟨id, member, same⟩
      · simp [program]
      · exact same ▸ runs id member
    rw [noted, Function.update_of_ne different, opens.context]
    exact coherent.context
  · rw [noted, sets]
    have before := coherent.returns.of_ended fun id ended =>
      ended.add time (⟨store.context, task⟩ : Deferred τ)
    exact before.congr (Function.update_of_ne (by simp) _ _) fun id member =>
      Function.update_of_ne (runs id member) _ _
  · intro id timer stored active
    rw [sets, Agenda.get?_add] at stored
    split at stored
    · next same =>
        cases stored
        rw [same, noted, Function.update_self]
        exact coherent.context.symm
    · have below := (List.getElem?_eq_some_iff.mp stored).1
      rw [noted, Function.update_of_ne (old id below)]
      exact coherent.waiting id timer stored active

omit [Instant τ] in
theorem Section.keeps {change : Fields → Fields} (acts : Section store change outcome) :
    store.agenda.Keeps outcome.store.agenda := by
  cases acts with
  | rebound left _ _ =>
      rw [left]
      exact Agenda.keeps_of_timers rfl
  | own _ _ keeps _ _ => exact keeps
  | fired fires => exact fires.keeps

omit [Instant τ] in
/-- What a section does agrees with what has been noted. -/
theorem Coherent.acts (coherent : Coherent initial notes store frames)
    (acts : Section store id outcome) :
    Coherent initial notes outcome.store (outcome.next.frame?.toList ++ frames) := by
  cases acts with
  | rebound left ends _ =>
      rw [left, ends]
      exact coherent
  | own context ready keeps goesOn _ =>
      have left := coherent.of_keeps ready context keeps
      cases waits : outcome.next.frame? with
      | none => exact left
      | some frame =>
          obtain ⟨tail, rfl⟩ := goesOn frame waits
          exact ⟨left.ready, left.context, .serving left.returns, left.waiting⟩
  | fired fires =>
      rw [fires.goesOn]
      exact coherent.fires fires

omit [Instant τ] in
theorem Coherent.acts_rebind {change : Fields → Fields}
    (coherent : Coherent initial notes store frames) (acts : Section store change outcome) :
    Coherent initial (notes ++ [.changed (strand frames) change]) outcome.store
      (outcome.next.frame?.toList ++ frames) := by
  have changed := coherent.rebind change
  cases acts with
  | rebound left ends _ =>
      rw [left, ends]
      exact changed
  | own context ready keeps goesOn told => exact changed.acts (.own context ready keeps goesOn told)
  | fired fires => exact changed.acts (.fired fires)

/-- The frames below the one that goes on agree with what has been noted, when its context has been
returned to. -/
theorem Coherent.resumes {frame : Frame τ}
    (coherent : Coherent initial notes store (frame :: frames)) (reply : Reply τ) :
    Coherent initial notes (resume frame reply store).store
        ((resume frame reply store).next.frame?.toList ++ frames) ∧
      store.agenda.Keeps (resume frame reply store).store.agenda := by
  cases frame with
  | submitted context => cases coherent.returns
  | serving tail =>
      have below := coherent.of_serving
      obtain ⟨debouncer, holds, without⟩ := below.ready.holds
      rw [resume, holds]
      dsimp only
      have ready : Ready { store with debouncer := some (debouncer.finish tail reply).1 } := by
        refine ⟨below.ready.pool, _, rfl, ?_⟩
        rw [Debouncer.finish_eq]
        exact without
      have keeps : store.agenda.Keeps store.agenda := Agenda.keeps_of_timers rfl
      exact ⟨below.of_keeps ready rfl keeps, keeps⟩
  | settling timer context =>
      have below := coherent.of_settling
      have silent : ∀ event ∈ failure timer reply, ¬ event.IsExecution := by
        cases reply <;> simp [failure]
      have acts := (section_settle below.ready).prepend silent
      exact ⟨below.acts acts, acts.keeps⟩

end Coherent

end Debounce.BackgroundSession
