import Debounce.Proofs.Twins

/-!
# Keys that do not interfere

The debouncers of a registry share a clock and an agenda, so timers of other keys fire inside every
advance. Nothing of this can be seen from one key: a run looks the same from there as the run that
is left when all operations on other keys are removed. The two runs are followed side by side: an
operation on another key is passed over in one of them, and every other operation is performed in
both.
-/

namespace Debounce

/-! ## What is seen of a key -/

/-- What can be seen of a debouncer. -/
structure Visible (τ : Type) where
  pending : Bool
  lastCall : Option τ
  leadingTimestamp : Option τ
  /-- The execution time of the timer that is held. -/
  executionTime? : Option τ

namespace Debouncer

variable {τ κ ω : Type} [Instant τ]

/-- Looks at a debouncer. -/
def visible (debouncer : Debouncer τ ω) (agenda : Agenda τ κ) : Visible τ where
  pending := debouncer.pending agenda
  lastCall := debouncer.lastCall
  leadingTimestamp := debouncer.leadingTimestamp
  executionTime? := (debouncer.timerStatus? agenda).map Timer.Status.executionTime

/-- Debouncers that mirror each other look the same. -/
theorem Mirrors.visible_eq {debouncer other : Debouncer τ ω} {agenda opposite : Agenda τ κ}
    {callback mirrored : κ} (mirrors : debouncer.Mirrors other agenda opposite)
    (minds : debouncer.Minds callback agenda) (others : other.Minds mirrored opposite) :
    other.visible opposite = debouncer.visible agenda := by
  have status : other.timerStatus? opposite = debouncer.timerStatus? agenda := by
    rw [minds.timerStatus?_eq, others.timerStatus?_eq, mirrors.times]
  rw [visible, visible, pending, pending, status, mirrors.fields]

end Debouncer

namespace RegistrySession

variable {τ : Type}

/-- What is seen of a key after an operation. -/
structure KeySight (τ : Type) where
  /-- What the operation has replied, unless it is an advance. -/
  reply? : Option (Reply τ)
  /-- The works that have run under the key. -/
  executions : List (Execution τ)
  /-- The debouncer under the key. -/
  visible? : Option (Visible τ)

/-- What is seen of a key in a run. -/
structure KeyView (τ : Type) where
  /-- After every operation that concerns the key. -/
  sights : List (KeySight τ) := []
  /-- The works that have run under the key, in operations on any key. -/
  executions : List (Execution τ) := []

variable [Instant τ]

/-- Looks at the debouncer under a key. -/
def Store.visible? (store : Store τ) (key : Value) : Option (Visible τ) :=
  ((store.registry.find? key).bind store.registry.debouncer?).map fun debouncer =>
    debouncer.visible store.agenda

/-- Looks at a key after an operation that was performed on the given store. -/
def sight (key : Value) (op : Op τ) (store : Store τ) (ending : Ending τ (Store τ) (Notice τ)) :
    KeySight τ where
  reply? := op.shown? ending.reply
  executions := executionsUnder key store ending
  visible? := ending.store.visible? key

/-- What is seen of a key in an operation and in what follows it. -/
def KeyView.after (key : Value) (op : Op τ) (store : Store τ)
    (ending : Ending τ (Store τ) (Notice τ)) (view : KeyView τ) : KeyView τ where
  sights := if op.concerns key then sight key op store ending :: view.sights else view.sights
  executions := executionsUnder key store ending ++ view.executions

/-- What is seen of a key in a run. -/
def view? (fuel : Nat) (key : Value) (store : Store τ) (runs : Runs) :
    List (Op τ) → Option (KeyView τ)
  | [] => some {}
  | op :: rest => do
      let ending := (← machine.perform? fuel op store runs).ending
      let view ← view? fuel key ending.store ending.runs rest
      return view.after key op store ending

/-! ## Runs side by side -/

section Runs

variable {counted : Set WorkId} {key : Value} {store other : Store τ} {runs alike : Runs}
variable {op : Op τ} {rest : List (Op τ)} {ending mirrored : Ending τ (Store τ) (Notice τ)}
variable {view : KeyView τ}

theorem view?_cons (ends : Ends (start op store) runs ending)
    (later : ∀ᶠ fuel in Filter.atTop, view? fuel key ending.store ending.runs rest = some view) :
    ∀ᶠ fuel in Filter.atTop,
      view? fuel key store runs (op :: rest) = some (view.after key op store ending) := by
  filter_upwards [Machine.Ends.perform? shows_clock ends, later] with fuel performs observed
  rcases Option.map_eq_some_iff.mp performs with ⟨performed, found, rfl⟩
  simp [view?, found, observed]

theorem Twins.visible?_eq (twins : Twins counted key store runs other alike) :
    other.visible? key = store.visible? key := by
  rw [Store.visible?, Store.visible?]
  cases twins.paired with
  | absent absent missing => rw [absent, missing]; rfl
  | present holder held found placed mirrors =>
      have same := mirrors.visible_eq (twins.left.minds _ _ found) (twins.right.minds _ _ placed)
      rw [holder, held, Option.bind_some, Option.bind_some, found, placed, Option.map_some,
        Option.map_some, same]

/-- The same is seen of the key in operations that come to ends that are alike. -/
theorem Parallel.after_eq {outcome opposite : Outcome τ}
    (parallel : Parallel counted key store outcome runs ending other opposite alike mirrored)
    (replies : op.shown? mirrored.reply = op.shown? ending.reply) :
    view.after key op other mirrored = view.after key op store ending := by
  have sights : sight key op other mirrored = sight key op store ending := by
    rw [sight, sight, replies, parallel.executions, parallel.twins.visible?_eq]
  rw [KeyView.after, KeyView.after, sights, parallel.executions]

/-- Nothing is seen of the key in an operation on another key. -/
theorem Passes.after_eq (passes : Passes counted key (start op store) store runs ending)
    (apart : op.concerns key = false) : view.after key op store ending = view := by
  have unheard := executionsUnder_of_aside passes.aside passes.unheard
  rw [KeyView.after, apart, if_neg Bool.false_ne_true, unheard, List.nil_append]

/-- What is seen of the key does not change when the operations on other keys are removed. -/
theorem Twins.view_eq [Instant.LawfulTies τ] (twins : Twins counted key store runs other alike)
    (ops : List (Op τ)) (suits : ∀ op ∈ ops, op.Suits counted key) :
    ∃ view,
      (∀ᶠ fuel in Filter.atTop, view? fuel key store runs ops = some view) ∧
      (∀ᶠ fuel in Filter.atTop,
        view? fuel key other alike (ops.filter (Op.concerns key)) = some view) := by
  induction ops generalizing store runs other alike with
  | nil => exact ⟨{}, .of_forall fun _ => rfl, .of_forall fun _ => rfl⟩
  | cons op rest ih =>
      have suited := suits op List.mem_cons_self
      have others : ∀ op ∈ rest, op.Suits counted key := fun op member =>
        suits op (List.mem_cons_of_mem _ member)
      cases concerns : op.concerns key with
      | true =>
          -- Both runs perform the operation.
          rcases twins.step concerns suited with ⟨ending, mirrored, parallel, replies⟩
          rcases ih parallel.twins others with ⟨view, whole, left⟩
          have remaining := view?_cons parallel.opposes left
          rw [parallel.after_eq replies] at remaining
          rw [List.filter_cons_of_pos concerns]
          exact ⟨_, view?_cons parallel.ends whole, remaining⟩
      | false =>
          -- One run performs the operation and the other does not; the sessions stay alike.
          rcases twins.left.exists_passes concerns suited runs with ⟨ending, passes⟩
          rcases ih (twins.aside passes.quiet passes.now passes.aside) others with
            ⟨view, whole, left⟩
          have observed := view?_cons passes.ends whole
          rw [passes.after_eq concerns] at observed
          rw [List.filter_cons_of_neg (by simp [concerns])]
          exact ⟨view, observed, left⟩

end Runs

theorem Twins.new (counted : Set WorkId) (key : Value) (clock : τ) :
    Twins counted key (Store.new clock) Runs.none (Store.new clock) Runs.none where
  left := .new clock
  right := .new clock
  clocks := rfl
  counts _ _ := rfl
  paired := .absent rfl rfl

/-- Keys do not interfere. In a session with quiet works, where those under the key may go by the
clock and by how often works that are not given under other keys have run, all that can be seen of
the key in a run can be seen in the run without the operations on other keys. -/
theorem keys_do_not_interfere [Instant.LawfulTies τ] (clock : τ) (key : Value)
    (counted : Set WorkId) (ops : List (Op τ)) (suits : ∀ op ∈ ops, op.Suits counted key) :
    ∃ view,
      (∀ᶠ fuel in Filter.atTop,
        view? fuel key (Store.new clock) Runs.none ops = some view) ∧
      (∀ᶠ fuel in Filter.atTop,
        view? fuel key (Store.new clock) Runs.none (ops.filter (Op.concerns key)) = some view) :=
  (Twins.new counted key clock).view_eq ops suits

/-- A work that tells how often it has run. -/
def tally : QuietWork Float where
  id := [0]
  name := "tally"
  body _ := .runs [0] fun count => .done (.count count)

/-- A work that tells what the clock shows. -/
def glance : QuietWork Float where
  id := [1]
  name := "glance"
  body _ := .step .now .done

/-- Two keys whose timers are set for the same time. -/
def neighbours : List (Op Float) :=
  [.guarded (.throttleFor (.int 2)) (.text "mail") (some tally.returning),
    .guarded (.throttleFor (.int 2)) (.text "index") (some glance.returning),
    .advance (.ok 1), .flush (.text "index"), .call (.text "index") (some glance.returning),
    .advance (.ok 1), .discard (.text "index"), .reset (.text "mail")]

example :
    ((view? 60 (.text "mail") (Store.new 0) Runs.none neighbours).map fun view =>
      view.sights.map fun sight => sight.executions.map Execution.name) =
        some [[], [], ["tally"], []] := by
  decide +kernel

/-- The timer of one key fires while the other key is flushed, used again and discarded. -/
theorem keys_do_not_interfere_of_neighbours :
    (∀ op ∈ neighbours, op.Suits {[0]} (.text "mail")) ∧
      (neighbours.filter (Op.concerns (.text "mail"))).length = 4 ∧
      ∃ view,
        (∀ᶠ fuel in Filter.atTop,
          view? fuel (.text "mail") (Store.new 0) Runs.none neighbours = some view) ∧
        (∀ᶠ fuel in Filter.atTop,
          view? fuel (.text "mail") (Store.new 0) Runs.none
            (neighbours.filter (Op.concerns (.text "mail"))) = some view) := by
  have goes : tally.GoesBy {[0]} := by
    intro runs other clock same
    have counts := Runs.count_congr (same [0] rfl) [0]
    exact congrArg Answer.count counts
  have suits : ∀ op ∈ neighbours, op.Suits {[0]} (.text "mail") := by
    intro op member used work given
    simp only [neighbours, List.mem_cons, List.not_mem_nil, or_false] at member
    rcases member with rfl | rfl | rfl | rfl | rfl | rfl | rfl | rfl <;> cases given
    · exact ⟨tally, rfl, fun _ => goes, fun apart => absurd (by decide) apart⟩
    · exact ⟨glance, rfl, fun same => absurd same (by decide), fun _ => by decide⟩
    · exact ⟨glance, rfl, fun same => absurd same (by decide), fun _ => by decide⟩
  exact ⟨suits, rfl, keys_do_not_interfere 0 (.text "mail") {[0]} neighbours suits⟩

end RegistrySession

end Debounce
