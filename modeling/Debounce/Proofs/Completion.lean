import Debounce.Proofs.Run

/-!
# The course of an operation

Between its beginning and its end an operation is suspended, and the operations that begin in the
meantime end before it does. So what it leaves when it ends is the doing of its own last section,
and what it carries in its frame from one section to the next is nobody else's.
-/

namespace Debounce

variable {Op R Store Frame Event : Type}

/-- An operation ends here, with the given number of operations suspended around it. -/
def Moment.endsAt (depth : Nat) : Moment Op R Event → Bool
  | .ended _ _ level => level = depth
  | .began _ _ | .event _ => false

theorem Effect.ended_mem_moments {effect : Effect Op R Store Frame Event} {op other : Op}
    {depth level : Nat} {reply : R} (member : .ended other reply level ∈ effect.moments op depth) :
    effect.next = .finish reply ∧ other = op ∧ level = depth := by
  rw [Effect.moments] at member
  cases ending : effect.next with
  | finish answer =>
      have same : other = op ∧ reply = answer ∧ level = depth := by simpa [ending] using member
      obtain ⟨rfl, rfl, rfl⟩ := same
      exact ⟨rfl, rfl, rfl⟩
  | enter frame work arguments => simp [ending] at member
  | skip frame reply => simp [ending] at member

namespace Machine

variable {machine : Machine Op R Store Frame Event}
variable {before middle after : Config Op R Store Frame Event}

/-- The step records the moment, alone or with others. -/
def Records (machine : Machine Op R Store Frame Event)
    (before after : Config Op R Store Frame Event) (moment : Moment Op R Event) : Prop :=
  machine.step? before = some after ∧
    ∃ moments, after.trace = before.trace ++ moments ∧ moment ∈ moments

/-- How a step comes to record a moment. -/
inductive Recording (machine : Machine Op R Store Frame Event)
    (before : Config Op R Store Frame Event) (moment : Moment Op R Event) :
    Config Op R Store Frame Event → Prop where
  /-- It begins an operation. -/
  | start {op : Op} {next : R → Script Op R} :
      before.script = .step op next →
      moment ∈ .began op before.stack.length ::
        (machine.start op before.store).moments op before.stack.length →
      Recording machine before moment
        (settle { before with trace := before.trace ++ [.began op before.stack.length] } op next
          (machine.start op before.store))
  /-- It goes on with one. -/
  | resume {reply : R} {op : Op} {frame : Frame} {next : R → Script Op R}
      {rest : List (Suspended Op R Frame)} :
      before.script = .done reply → before.stack = ⟨op, frame, next⟩ :: rest →
      moment ∈ (machine.resume frame reply before.store).moments op rest.length →
      Recording machine before moment
        (settle { before with stack := rest } op next (machine.resume frame reply before.store))

theorem Records.recording {moment : Moment Op R Event}
    (records : machine.Records before after moment) : Recording machine before moment after := by
  obtain ⟨stepped, moments, recorded, member⟩ := records
  cases step_of_step? stepped with
  | start script =>
      apply Recording.start script
      rw [settle_trace, List.append_assoc] at recorded
      rw [← List.append_cancel_left recorded] at member
      exact member
  | ask script =>
      obtain rfl : moments = [] := by simpa using recorded
      cases member
  | resume script stack =>
      apply Recording.resume script stack
      rw [settle_trace] at recorded
      rw [← List.append_cancel_left recorded] at member
      exact member

/-- The events of the first section of an operation are recorded. -/
theorem records_of_start {op : Op} {next : R → Script Op R} {event : Event}
    (script : before.script = .step op next)
    (reported : event ∈ (machine.start op before.store).events) :
    machine.Records before
      (settle { before with trace := before.trace ++ [.began op before.stack.length] } op next
        (machine.start op before.store)) (.event event) := by
  refine ⟨by rw [step?, script], .began op before.stack.length ::
    (machine.start op before.store).moments op before.stack.length, by simp, ?_⟩
  exact List.mem_cons_of_mem _ (Effect.event_mem_moments.mpr reported)

/-- So are those of a section that goes on with an operation. -/
theorem records_of_resume {reply : R} {op : Op} {frame : Frame} {next : R → Script Op R}
    {rest : List (Suspended Op R Frame)} {event : Event} (script : before.script = .done reply)
    (stack : before.stack = ⟨op, frame, next⟩ :: rest)
    (reported : event ∈ (machine.resume frame reply before.store).events) :
    machine.Records before
      (settle { before with stack := rest } op next (machine.resume frame reply before.store))
      (.event event) := by
  refine ⟨by rw [step?, script, stack], _, settle_trace _ _ _ _, ?_⟩
  exact Effect.event_mem_moments.mpr reported

/-- An operation that ends where it begins does so by its first section. -/
theorem Records.finishes {op other : Op} {reply : R} {next : R → Script Op R} {depth : Nat}
    (records : machine.Records before after (.ended other reply depth))
    (script : before.script = .step op next) :
    (machine.start op before.store).next = .finish reply ∧
      after.store = (machine.start op before.store).store := by
  cases records.recording with
  | start begins member =>
      obtain ⟨rfl, rfl⟩ := Script.step.inj (script.symm.trans begins)
      have ended := Effect.ended_mem_moments (List.mem_of_ne_of_mem (by simp) member)
      exact ⟨ended.1, settle_store _ _ _ _⟩
  | resume ends => cases script.symm.trans ends

/-- What a step adds to the record can be looked through. -/
theorem exists_records {test : Moment Op R Event → Bool}
    (found : (machine.step? before).any
      (fun after => (after.trace.drop before.trace.length).any test) = true) :
    ∃ after moment, machine.Records before after moment ∧ test moment = true := by
  obtain ⟨after, stepped, passes⟩ := (Option.any_eq_true _ _).mp found
  obtain ⟨moments, recorded⟩ := (step_of_step? stepped).record_grows
  rw [← recorded, List.drop_left] at passes
  obtain ⟨moment, member, holds⟩ := List.any_eq_true.mp passes
  exact ⟨after, moment, ⟨stepped, moments, recorded.symm, member⟩, holds⟩

/-- An event is recorded with the effect of the section that reports it. -/
theorem Records.reported {event : Event} (records : machine.Records before after (.event event))
    (Holds : Effect Op R Store Frame Event → Prop)
    (started : ∀ op, Holds (machine.start op before.store))
    (resumed : ∀ frame reply, Holds (machine.resume frame reply before.store)) :
    ∃ config op next effect, Holds effect ∧ event ∈ effect.events ∧
      after = settle config op next effect := by
  cases records.recording with
  | start script member =>
      have inEffect := List.mem_of_ne_of_mem (by simp) member
      exact ⟨_, _, _, _, started _, Effect.event_mem_moments.mp inEffect, rfl⟩
  | resume script stack member =>
      exact ⟨_, _, _, _, resumed _ _, Effect.event_mem_moments.mp member, rfl⟩

/-- The operation that begins in the one state ends with the reply in the step that leads to the
other one, and in no step before. -/
structure Completes (machine : Machine Op R Store Frame Event) (op : Op) (reply : R)
    (before after : Config Op R Store Frame Event) : Prop where
  begins : ∃ next, before.script = .step op next
  ends : ∃ middle during, machine.Reaches before middle ∧ middle.trace = before.trace ++ during ∧
    (∀ moment ∈ during, moment.endsAt before.stack.length = false) ∧
    machine.Records middle after (.ended op reply before.stack.length)

/-- The operation that begins in the one state is suspended in the other one, and is to go on at the
frame. -/
def Suspends (op : Op) (frame : Frame) (before after : Config Op R Store Frame Event) : Prop :=
  ∃ next above, after.stack = above ++ ⟨op, frame, next⟩ :: before.stack

/-- After a section of the operation that acts, the operation is suspended or has ended. -/
theorem suspends_or_ends (config : Config Op R Store Frame Event) (op : Op) (next : R → Script Op R)
    (effect : Effect Op R Store Frame Event) (stack : config.stack = before.stack) :
    (∃ frame, effect.next.frame? = some frame ∧
      Suspends op frame before (settle config op next effect)) ∨
    ∃ reply, effect.next = .finish reply ∧
      .ended op reply before.stack.length ∈ effect.moments op before.stack.length := by
  cases ending : effect.next with
  | finish reply =>
      right
      exact ⟨reply, rfl, by simp [Effect.moments, ending]⟩
  | enter frame work arguments =>
      left
      exact ⟨frame, rfl, next, [], by simp [settle_stack, ending, Next.frame?, stack]⟩
  | skip frame reply =>
      left
      exact ⟨frame, rfl, next, [], by simp [settle_stack, ending, Next.frame?, stack]⟩

/-- Operations that act above it leave it suspended. -/
theorem suspends_settle {op other : Op} {frame : Frame} {next after : R → Script Op R}
    {effect : Effect Op R Store Frame Event} {above : List (Suspended Op R Frame)}
    (stack : middle.stack = above ++ ⟨op, frame, after⟩ :: before.stack) :
    Suspends op frame before (settle middle other next effect) := by
  have grown := settle_stack middle other next effect
  rw [stack, ← List.append_assoc] at grown
  exact ⟨after, _, grown⟩

/-- The frame that goes on is that of the suspended operation, or of one that acts above it. -/
theorem Suspends.top {op acting : Op} {frame top : Frame} {rest : R → Script Op R}
    {below : List (Suspended Op R Frame)} (suspends : Suspends op frame before middle)
    (stack : middle.stack = ⟨acting, top, rest⟩ :: below) :
    (op = acting ∧ frame = top ∧ below = before.stack) ∨
      ∃ next shallower, below = shallower ++ ⟨op, frame, next⟩ :: before.stack := by
  obtain ⟨next, above, buried⟩ := suspends
  rw [stack] at buried
  cases above with
  | nil =>
      left
      obtain ⟨⟨rfl, rfl, rfl⟩, rfl⟩ : (acting = op ∧ top = frame ∧ rest = next) ∧
          below = before.stack := by simpa using buried
      exact ⟨rfl, rfl, rfl⟩
  | cons _ shallower =>
      right
      exact ⟨next, shallower, (List.cons.inj buried).2⟩

theorem Suspends.deeper {op : Op} {frame : Frame} (suspends : Suspends op frame before after) :
    before.stack.length < after.stack.length := by
  obtain ⟨next, above, stack⟩ := suspends
  rw [stack, List.length_append, List.length_cons]
  omega

/-- The frames that the operation comes to by its own sections fulfil a condition. -/
structure Waiting (machine : Machine Op R Store Frame Event) (op : Op)
    (before : Config Op R Store Frame Event) (Waits : Frame → Prop) : Prop where
  started : ∀ frame, (machine.start op before.store).next.frame? = some frame → Waits frame
  resumed : ∀ middle frame reply later, machine.Reaches before middle → Waits frame →
    (machine.resume frame reply middle.store).next.frame? = some later → Waits later

section Waiting

variable {op other : Op} {reply : R} {next : R → Script Op R} {during : List (Moment Op R Event)}
variable {Waits : Frame → Prop}

/-- The operation is about to begin, or it is suspended at a frame that it has come to. -/
def UnderWay (op : Op) (Waits : Frame → Prop) (before after : Config Op R Store Frame Event) :
    Prop :=
  after = before ∨ ∃ frame, Waits frame ∧ Suspends op frame before after

/-- An operation under way is suspended after a step in which it does not end. -/
theorem UnderWay.step (underWay : UnderWay op Waits before middle)
    (waiting : Waiting machine op before Waits) (begins : before.script = .step op next)
    (reaches : machine.Reaches before middle) (stepped : machine.step? middle = some after)
    (recorded : after.trace = middle.trace ++ during)
    (noEnd : ∀ reply, .ended op reply before.stack.length ∉ during) :
    ∃ frame, Waits frame ∧ Suspends op frame before after := by
  cases step_of_step? stepped with
  | @start acting rest script =>
      rw [settle_trace, List.append_assoc] at recorded
      obtain rfl := List.append_cancel_left recorded
      rcases underWay with rfl | ⟨frame, waits, after, above, stack⟩
      · obtain ⟨rfl, rfl⟩ : op = acting ∧ next = rest := by simpa [begins] using script
        rcases suspends_or_ends _ op next (machine.start op middle.store) rfl with
          ⟨frame, goesOn, suspends⟩ | ⟨reply, _, member⟩
        · exact ⟨frame, waiting.started frame goesOn, suspends⟩
        · exact absurd (List.mem_append_right _ member) (noEnd reply)
      · exact ⟨frame, waits, suspends_settle stack⟩
  | ask script =>
      rcases underWay with rfl | suspends
      · cases begins.symm.trans script
      · exact suspends
  | @resume reply acting top rest below script stack =>
      rw [settle_trace] at recorded
      obtain rfl := List.append_cancel_left recorded
      rcases underWay with rfl | ⟨frame, waits, suspends⟩
      · cases begins.symm.trans script
      · rcases suspends.top stack with ⟨rfl, rfl, rfl⟩ | ⟨after, shallower, rfl⟩
        · rcases suspends_or_ends { middle with stack := before.stack } op rest
            (machine.resume frame reply middle.store) rfl with
            ⟨later, goesOn, suspended⟩ | ⟨answer, _, member⟩
          · exact ⟨later, waiting.resumed _ _ _ _ reaches waits goesOn, suspended⟩
          · exact absurd member (noEnd answer)
        · exact ⟨frame, waits, suspends_settle rfl⟩

/-- Until an operation ends it is suspended, at a frame that it has come to by its own sections. -/
theorem underWay_until_end (waiting : Waiting machine op before Waits)
    (begins : before.script = .step op next) (reaches : machine.Reaches before after)
    (recorded : after.trace = before.trace ++ during)
    (lasts : ∀ moment ∈ during, moment.endsAt before.stack.length = false) :
    UnderWay op Waits before after := by
  induction reaches generalizing during with
  | refl => exact .inl rfl
  | step reaches stepped ih =>
      obtain ⟨earlier, recordedBefore⟩ := reaches.record_grows
      obtain ⟨moments, recordedNow⟩ := (step_of_step? stepped).record_grows
      rw [← recordedNow, ← recordedBefore, List.append_assoc] at recorded
      obtain rfl := List.append_cancel_left recorded
      right
      apply UnderWay.step ?_ waiting begins reaches stepped recordedNow.symm
      · intro reply member
        have ends := lasts _ (List.mem_append_right _ member)
        simp [Moment.endsAt] at ends
      · apply ih recordedBefore.symm
        exact fun moment member => lasts moment (List.mem_append_left _ member)

/-- Where an operation first ends at the depth of one that has begun, it is that one, and what it
leaves is the doing of its last section: the first one, or one that goes on from a frame that it has
come to by its own sections. -/
theorem UnderWay.last_section (underWay : UnderWay op Waits before middle)
    (begins : before.script = .step op next)
    (records : machine.Records middle after (.ended other reply before.stack.length)) :
    other = op ∧
      ((machine.start op before.store).next = .finish reply ∧
          after.store = (machine.start op before.store).store ∨
        ∃ frame answer, Waits frame ∧
          (machine.resume frame answer middle.store).next = .finish reply ∧
          after.store = (machine.resume frame answer middle.store).store) := by
  cases records.recording with
  | @start acting rest script member =>
      have ended := Effect.ended_mem_moments (List.mem_of_ne_of_mem (by simp) member)
      rcases underWay with rfl | ⟨frame, waits, suspends⟩
      · obtain ⟨rfl, rfl⟩ : op = acting ∧ next = rest := by simpa [begins] using script
        exact ⟨ended.2.1, .inl ⟨ended.1, settle_store _ _ _ _⟩⟩
      · exact absurd ended.2.2 (Nat.ne_of_lt suspends.deeper)
  | @resume answer acting top rest below script stack member =>
      have ended := Effect.ended_mem_moments member
      rcases underWay with rfl | ⟨frame, waits, suspends⟩
      · cases begins.symm.trans script
      · rcases suspends.top stack with ⟨rfl, rfl, rfl⟩ | ⟨after, shallower, rfl⟩
        · exact ⟨ended.2.1, .inr ⟨frame, answer, waits, ended.1, settle_store _ _ _ _⟩⟩
        · have deeper : before.stack.length ≠
              (shallower ++ ⟨op, frame, after⟩ :: before.stack).length := by
            simp
            omega
          exact absurd ended.2.2 deeper

/-- What an operation leaves when it ends is the doing of its last section. -/
theorem Completes.last_section (completes : machine.Completes op reply before after)
    (waiting : Waiting machine op before Waits) :
    (machine.start op before.store).next = .finish reply ∧
        after.store = (machine.start op before.store).store ∨
      ∃ middle frame answer, machine.Reaches before middle ∧ Waits frame ∧
        (machine.resume frame answer middle.store).next = .finish reply ∧
        after.store = (machine.resume frame answer middle.store).store := by
  obtain ⟨next, begins⟩ := completes.begins
  obtain ⟨middle, during, reaches, recorded, lasts, records⟩ := completes.ends
  have underWay := underWay_until_end waiting begins reaches recorded lasts
  apply (underWay.last_section begins records).2.imp_right
  intro ⟨frame, answer, waits, finishes, left⟩
  exact ⟨middle, frame, answer, reaches, waits, finishes, left⟩

/-- An operation has completed if the record says so and its depth has not been come back to
before. -/
theorem completes_of_countP (begins : before.script = .step op next)
    (reaches : machine.Reaches before middle)
    (same : middle.trace.countP (Moment.endsAt before.stack.length) =
      before.trace.countP (Moment.endsAt before.stack.length))
    (records : machine.Records middle after (.ended other reply before.stack.length)) :
    machine.Completes op reply before after := by
  obtain ⟨during, recorded⟩ := reaches.record_grows
  have lasts : ∀ moment ∈ during, moment.endsAt before.stack.length = false := by
    rw [← recorded, List.countP_append, Nat.add_eq_left, List.countP_eq_zero] at same
    simpa using same
  have waiting : Waiting machine op before fun _ => True :=
    ⟨fun _ _ => trivial, fun _ _ _ _ _ _ _ => trivial⟩
  have underWay := underWay_until_end waiting begins reaches recorded.symm lasts
  obtain ⟨rfl, _⟩ := underWay.last_section begins records
  exact ⟨⟨next, begins⟩, middle, during, reaches, recorded.symm, lasts, records⟩

end Waiting

end Machine

end Debounce
