import Debounce.Environment.Cache
import Mathlib.Data.List.Induction

/-!
# Things that a process keeps

A process makes a thing when it is first needed, and keeps it until it is dropped. What a step can do
to such a thing is said once, and the theory of its lifetimes rests on that alone: which step made
it, as long as it is kept everybody is served with the same one, and after a drop with another.
-/

namespace Debounce

namespace Process

/-! ## Runs -/

/-- A use of the process-wide state. -/
inductive Use where
  | tidy (chore : Chore)
  /-- Asks for the settings. -/
  | read
  /-- Submits a work to the pool. -/
  | submit
  /-- Opens a scheduler, for which the pool has to be there. -/
  | openScheduler
  deriving DecidableEq

/-- The process after a use. -/
def after (process : Process) : Use → Process
  | .tidy chore => process.tidy chore
  | .read => process.settings.2
  | .submit | .openScheduler => process.executor.2

/-- The process after several uses. -/
def run (process : Process) (uses : List Use) : Process := uses.foldl after process

/-- A use and the process before it. -/
structure Step where
  before : Process
  use : Use

/-- The process after a step. -/
def Step.after (step : Step) : Process := step.before.after step.use

/-- The steps of a run. -/
def steps (process : Process) : List Use → List Step
  | [] => []
  | use :: uses => ⟨process, use⟩ :: (process.after use).steps uses

variable {process start : Process} {uses others : List Use} {use : Use}

theorem run_append : process.run (uses ++ others) = (process.run uses).run others :=
  List.foldl_append

theorem steps_append : process.steps (uses ++ others) =
    process.steps uses ++ (process.run uses).steps others := by
  induction uses generalizing process with
  | nil => rfl
  | cons use uses ih => exact congrArg (List.cons _) ih

/-- A step of a run stands between the steps that the uses before it make and those that the uses
after it make. -/
theorem steps_eq_append_cons {older newer : List Step} {step : Step}
    (split : process.steps uses = older ++ step :: newer) :
    ∃ past future, older = process.steps past ∧ step.before = process.run past ∧
      newer = step.after.steps future ∧ process.run uses = step.after.run future := by
  induction older generalizing process uses with
  | nil =>
      cases uses with
      | nil => cases split
      | cons use uses =>
          obtain ⟨rfl, rfl⟩ := List.cons.inj split
          exact ⟨[], uses, rfl, rfl, rfl, rfl⟩
  | cons first older ih =>
      cases uses with
      | nil => cases split
      | cons use uses =>
          obtain ⟨rfl, rest⟩ := List.cons.inj split
          obtain ⟨past, future, rfl, before, rfl, ends⟩ := ih rest
          exact ⟨use :: past, future, rfl, before, rfl, ends⟩

end Process

/-! ## Things that are kept -/

section Change

variable {α : Type}

/-- What a step can do to a thing that is kept. The indices are the thing and the number of things
made before the step, whether the step drops the thing, what it replies if it is asked for the thing,
and the thing and the number afterwards. -/
inductive Change (serial : α → Nat) :
    Option α → Nat → Bool → Option (Except Fault α) → Option α → Nat → Prop where
  | drops {kept : Option α} {made : Nat} : Change serial kept made true none none made
  | idles {kept : Option α} {made : Nat} : Change serial kept made false none kept made
  | serves {a : α} {made : Nat} : Change serial (some a) made false (some (.ok a)) (some a) made
  | makes {a : α} {made : Nat} : serial a = made →
      Change serial none made false (some (.ok a)) (some a) (made + 1)
  | fails {fault : Fault} {made : Nat} :
      Change serial none made false (some (.error fault)) none made

namespace Change

variable {serial : α → Nat} {kept later : Option α} {made madeLater : Nat} {drops : Bool}
variable {reply? : Option (Except Fault α)} {a b : α}

theorem kept_of_ok (change : Change serial kept made drops reply? later madeLater)
    (replied : reply? = some (.ok a)) : later = some a := by
  cases change <;> simp_all

theorem ok_of_kept (change : Change serial kept made drops reply? later madeLater)
    (there : kept = some a) (replied : reply? = some (.ok b)) : b = a := by
  cases change <;> simp_all

theorem kept_of_undropped (change : Change serial kept made drops reply? later madeLater)
    (there : kept = some a) (undropped : drops = false) : later = some a := by
  cases change <;> simp_all

theorem none_of_dropped (change : Change serial kept made drops reply? later madeLater)
    (dropped : drops = true) : later = none := by
  cases change <;> simp_all

theorem none_of_error {fault : Fault}
    (change : Change serial kept made drops reply? later madeLater)
    (replied : reply? = some (.error fault)) : kept = none ∧ later = none := by
  cases change <;> simp_all

theorem none_of_not_ok (change : Change serial kept made drops reply? later madeLater)
    (empty : kept = none) (silent : ∀ a, reply? ≠ some (.ok a)) : later = none := by
  cases change <;> simp_all

/-- What is there after a step has just been made, or it has been there before and was not dropped. -/
theorem kept_cases (change : Change serial kept made drops reply? later madeLater)
    (there : later = some a) :
    kept = none ∧ reply? = some (.ok a) ∨ kept = some a ∧ drops = false := by
  cases change <;> simp_all

theorem made_le (change : Change serial kept made drops reply? later madeLater) :
    made ≤ madeLater := by
  cases change <;> omega

/-- What is there keeps a number between a bound and the number of things made. -/
theorem numbered {bound : Nat} (change : Change serial kept made drops reply? later madeLater)
    (reached : bound ≤ made) (bounds : ∀ a, kept = some a → bound ≤ serial a ∧ serial a < made)
    (there : later = some a) : bound ≤ serial a ∧ serial a < madeLater := by
  cases change with
  | drops => cases there
  | idles => exact bounds a there
  | serves => exact bounds a there
  | makes numbered =>
      cases there
      omega
  | fails => cases there

end Change

end Change

namespace Process

/-- A thing that is made when it is first needed, and kept until it is dropped. -/
structure Keeping (α : Type) where
  kept : Process → Option α
  /-- How many have been made. -/
  made : Process → Nat
  /-- The number that a thing got when it was made. -/
  serial : α → Nat
  drops : Use → Bool
  /-- The reply to a step that asks for the thing. -/
  reply? : Step → Option (Except Fault α)
  change (step : Step) : Change serial (kept step.before) (made step.before) (drops step.use)
    (reply? step) (kept step.after) (made step.after)

namespace Keeping

variable {α : Type} {keeping : Keeping α} {process start : Process} {uses : List Use} {use : Use}
variable {older newer : List Step} {step : Step} {a b : α}

/-- The thing was made by a step: that step was the first to be served since the thing was last
dropped, and nothing was dropped afterwards. -/
structure IsSource (keeping : Keeping α) (older : List Step) (maker : Step) (newer : List Step)
    (a : α) : Prop where
  served : keeping.reply? maker = some (.ok a)
  first : ∀ earlier step later b, older = earlier ++ step :: later →
    keeping.reply? step = some (.ok b) → ∃ between ∈ later, keeping.drops between.use = true
  undropped : ∀ between ∈ newer, keeping.drops between.use = false

/-- What is there stays there as long as it is not dropped. -/
theorem kept_run (there : keeping.kept process = some a)
    (undropped : ∀ step ∈ process.steps uses, keeping.drops step.use = false) :
    keeping.kept (process.run uses) = some a := by
  induction uses generalizing process with
  | nil => exact there
  | cons use uses ih =>
      have stays := (keeping.change ⟨process, use⟩).kept_of_undropped there
        (undropped _ List.mem_cons_self)
      exact ih stays fun step member => undropped step (List.mem_cons_of_mem _ member)

/-- Nothing is there as long as nobody is served. -/
theorem none_run (empty : keeping.kept process = none)
    (silent : ∀ step ∈ process.steps uses, ∀ a, keeping.reply? step ≠ some (.ok a)) :
    keeping.kept (process.run uses) = none := by
  induction uses generalizing process with
  | nil => exact empty
  | cons use uses ih =>
      have stays := (keeping.change ⟨process, use⟩).none_of_not_ok empty
        (silent _ List.mem_cons_self)
      exact ih stays fun step member => silent step (List.mem_cons_of_mem _ member)

theorem made_le_run : keeping.made process ≤ keeping.made (process.run uses) := by
  induction uses generalizing process with
  | nil => exact Nat.le_refl _
  | cons use uses ih => exact Nat.le_trans (keeping.change ⟨process, use⟩).made_le ih

/-- What is there has a number between a bound and the number of things made. -/
def IsNumbered (keeping : Keeping α) (bound : Nat) (process : Process) : Prop :=
  ∀ a, keeping.kept process = some a →
    bound ≤ keeping.serial a ∧ keeping.serial a < keeping.made process

theorem isNumbered_of_none {bound : Nat} (empty : keeping.kept process = none) :
    keeping.IsNumbered bound process := by
  intro a there
  rw [empty] at there
  cases there

theorem isNumbered_run {bound : Nat} (reached : bound ≤ keeping.made process)
    (numbered : keeping.IsNumbered bound process) :
    keeping.IsNumbered bound (process.run uses) := by
  induction uses generalizing process with
  | nil => exact numbered
  | cons use uses ih =>
      have change := keeping.change ⟨process, use⟩
      exact ih (Nat.le_trans reached change.made_le) fun a there => change.numbered reached numbered there

/-- Who was served last is still served, unless there was a drop. -/
theorem kept_of_split (split : start.steps uses = older ++ step :: newer)
    (served : keeping.reply? step = some (.ok a))
    (undropped : ∀ between ∈ newer, keeping.drops between.use = false) :
    keeping.kept (start.run uses) = some a := by
  obtain ⟨past, future, -, -, rfl, ends⟩ := steps_eq_append_cons split
  rw [ends]
  exact kept_run ((keeping.change step).kept_of_ok served) undropped

/-- What is there has a source. -/
theorem exists_source (empty : keeping.kept start = none)
    (there : keeping.kept (start.run uses) = some a) :
    ∃ older maker newer, start.steps uses = older ++ maker :: newer ∧
      keeping.IsSource older maker newer a := by
  induction uses using List.reverseRecOn with
  | nil =>
      rw [run, List.foldl_nil, empty] at there
      cases there
  | append_singleton uses use ih =>
      have change := keeping.change ⟨start.run uses, use⟩
      rw [run_append] at there
      rw [steps_append]
      obtain ⟨absent, served⟩ | ⟨before, undropped⟩ := change.kept_cases there
      · refine ⟨_, _, [], rfl, served, ?_, nofun⟩
        intro earlier step later b split replied
        by_cases undropped : ∀ between ∈ later, keeping.drops between.use = false
        · -- Then what was served earlier would still be there.
          have still := kept_of_split split replied undropped
          rw [absent] at still
          cases still
        · simpa using undropped
      · obtain ⟨older, maker, newer, split, source⟩ := ih before
        refine ⟨older, maker, newer ++ [⟨start.run uses, use⟩], by simp [split, steps],
          source.served, source.first, ?_⟩
        intro between member
        rcases List.mem_append.mp member with earlier | last
        · exact source.undropped between earlier
        · rw [List.mem_singleton.mp last]
          exact undropped

/-- Nothing was there before the source. -/
theorem none_before_source {maker : Step} (empty : keeping.kept start = none)
    (split : start.steps uses = older ++ maker :: newer)
    (source : keeping.IsSource older maker newer a) : keeping.kept maker.before = none := by
  obtain ⟨past, future, rfl, before, -, -⟩ := steps_eq_append_cons split
  rw [before, Option.eq_none_iff_forall_ne_some]
  intro b there
  obtain ⟨earlier, former, later, splitPast, formerSource⟩ := exists_source empty there
  obtain ⟨between, member, dropped⟩ := source.first _ _ _ _ splitPast formerSource.served
  rw [formerSource.undropped between member] at dropped
  cases dropped

/-- Whoever is served is served with what has a source. -/
theorem exists_source_of_ok (empty : keeping.kept start = none)
    (served : keeping.reply? ⟨start.run uses, use⟩ = some (.ok a)) :
    ∃ older maker newer, start.steps uses ++ [⟨start.run uses, use⟩] = older ++ maker :: newer ∧
      keeping.IsSource older maker newer a ∧ keeping.kept maker.before = none := by
  have there : keeping.kept (start.run (uses ++ [use])) = some a := by
    rw [run_append]
    exact (keeping.change ⟨start.run uses, use⟩).kept_of_ok served
  obtain ⟨older, maker, newer, split, source⟩ := exists_source empty there
  have absent := none_before_source empty split source
  rw [steps_append] at split
  exact ⟨older, maker, newer, split, source, absent⟩

/-- What is made after a drop has a larger number than what was there before. -/
theorem serial_lt_of_dropped (empty : keeping.kept start = none)
    (split : start.steps uses = older ++ step :: newer)
    (served : keeping.reply? step = some (.ok a)) {between : Step} (member : between ∈ newer)
    (dropped : keeping.drops between.use = true)
    (servedAgain : keeping.reply? ⟨start.run uses, use⟩ = some (.ok b)) :
    keeping.serial a < keeping.serial b := by
  obtain ⟨past, future, -, before, rfl, ends⟩ := steps_eq_append_cons split
  obtain ⟨earlier, later, splitAfter⟩ := List.append_of_mem member
  obtain ⟨first, last, -, drop, -, endsAfter⟩ := steps_eq_append_cons splitAfter
  -- How many had been made when the first was dropped stands between the two numbers.
  have below : keeping.serial a < keeping.made step.after := by
    have numbered : keeping.IsNumbered 0 step.before :=
      before ▸ isNumbered_run (Nat.zero_le _) (isNumbered_of_none empty)
    have change := keeping.change step
    exact (change.numbered (Nat.zero_le _) numbered (change.kept_of_ok served)).2
  have grown : keeping.made step.after ≤ keeping.made between.after :=
    Nat.le_trans (drop ▸ made_le_run) (keeping.change between).made_le
  have above : keeping.made between.after ≤ keeping.serial b := by
    have change := keeping.change ⟨start.run uses, use⟩
    have gone : keeping.kept between.after = none :=
      (keeping.change between).none_of_dropped dropped
    have reached : start.run uses = between.after.run last := ends.trans endsAfter
    refine (change.numbered ?_ ?_ (change.kept_of_ok servedAgain)).1
    · exact reached ▸ made_le_run
    · exact reached ▸ isNumbered_run (Nat.le_refl _) (isNumbered_of_none gone)
  omega

/-- Two that are served are served with the same thing if and only if it was not dropped in
between. -/
theorem eq_iff_undropped (empty : keeping.kept start = none)
    (split : start.steps uses = older ++ step :: newer)
    (served : keeping.reply? step = some (.ok a))
    (servedAgain : keeping.reply? ⟨start.run uses, use⟩ = some (.ok b)) :
    b = a ↔ ∀ between ∈ newer, keeping.drops between.use = false := by
  constructor
  · rintro rfl between member
    rw [Bool.eq_false_iff]
    intro dropped
    exact Nat.lt_irrefl _ (serial_lt_of_dropped empty split served member dropped servedAgain)
  · intro undropped
    exact (keeping.change ⟨start.run uses, use⟩).ok_of_kept
      (kept_of_split split served undropped) servedAgain

/-- After a failure, nothing is there until somebody is served. -/
theorem none_of_split {fault : Fault} (split : start.steps uses = older ++ step :: newer)
    (failed : keeping.reply? step = some (.error fault))
    (silent : ∀ between ∈ newer, ∀ a, keeping.reply? between ≠ some (.ok a)) :
    keeping.kept (start.run uses) = none := by
  obtain ⟨past, future, -, -, rfl, ends⟩ := steps_eq_append_cons split
  rw [ends]
  exact none_run ((keeping.change step).none_of_error failed).2 silent

end Keeping

end Process

end Debounce
