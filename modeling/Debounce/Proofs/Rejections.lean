import Debounce.Proofs.FirstPolicy
import Debounce.Proofs.Ranges

/-!
# Rejected registrations

An operation that comes with a policy first settles its key, then looks the key up, and only if the
key is not in use reads the policy, makes a debouncer and registers it. On the way it may be
rejected: for want of a key, for a key that cannot be one, or for a policy that is not valid. Then
nothing has been done yet, and everything goes on as if the operation had never been made.

Debouncing for a range takes its idle time from the range as it was given, and its interval from the
range as it is read. For an absent range, a duration, a pair and an interval the two agree, whatever
stands in them. A mapping is a range as well, but its begin is not looked up for the idle time: the
mapping itself is taken, which is no duration. So debouncing for a range that is a mapping is
rejected, while throttling for the same range is not.
-/

namespace Debounce

namespace Fault

/-- A policy that is not valid is refused with the complaints about it, or for a duration that is
out of bounds. -/
theorem of_build {interval leading idleTime : Value} {fault : Fault}
    (invalid : Settings.build interval leading idleTime = .error fault) :
    (∃ complaints, fault = .invalidPolicy complaints) ∨ fault = .durationUnderflow := by
  obtain ⟨objection, -, rfl⟩ := Settings.build_eq_error.mp invalid
  cases objection with
  | refused complaints => exact .inl ⟨complaints, rfl⟩
  | underflow => exact .inr rfl

end Fault

namespace RegistrySession

variable {τ : Type} [Instant τ] {store : Store τ} {guard : Guard} {key used : Value}
variable {work? : Option (Work (Op τ) (Reply τ))} {settings : Settings} {fault : Fault}

/-- Why an operation that comes with a policy fails before it gets to a debouncer. -/
inductive Rejects (store : Store τ) (guard : Guard) (key : Value)
    (work? : Option (Work (Op τ) (Reply τ))) : Fault → Prop where
  /-- No key is given, and there is no work with a place in the source. -/
  | keyless :
      key = .null → work?.bind Work.source = none →
      Rejects store guard key work? (.noKey (work?.map Work.name))
  /-- The key holds a list or a mapping. -/
  | unhashable {used : Value} {kindName : String} :
      Registry.chooseKey key work? = .ok used → Key.obstacle? used = some kindName →
      Rejects store guard key work? (.unhashable kindName)
  /-- The key is not in use, and the policy is not valid. -/
  | invalid {used : Value} {fault : Fault} :
      Registry.chooseKey key work? = .ok used → store.registry.get? used = .ok none →
      Settings.build guard.interval guard.leading guard.idleTime = .error fault →
      Rejects store guard key work? fault

/-- The operation makes a debouncer with the policy and registers it under the key. -/
structure Registers (store : Store τ) (op : Op τ) (used : Value) (settings : Settings) : Prop where
  entered : (start op store).store.registry.entries =
    store.registry.entries ++ [(used, store.registry.made.length)]
  made : (start op store).store.Made used store.registry.made.length settings

/-- A debouncer is registered if and only if there is a key, the key is not in use and the policy is
valid. -/
theorem registers_iff :
    Registers store (.guarded guard key work?) used settings ↔
      Registry.chooseKey key work? = .ok used ∧ store.registry.get? used = .ok none ∧
        Settings.build guard.interval guard.leading guard.idleTime = .ok settings := by
  constructor
  · rintro ⟨entered, debouncer, found, policy, -⟩
    rw [entries_guarded, List.append_cancel_left_eq, Option.toList_eq_singleton_iff, addition?]
      at entered
    split at entered
    · cases entered
    · next key other comes =>
        split at entered
        · next absent =>
            obtain rfl : key = used := congrArg Prod.fst (Option.some.inj entered)
            obtain ⟨chooses, builds⟩ := policy?_eq_some comes
            obtain ⟨made, same, given, -⟩ := made_by_start comes absent
            obtain rfl : made = debouncer := Option.some.inj (same.symm.trans found)
            exact ⟨chooses, absent, by rw [builds, ← given, policy]⟩
        · cases entered
  · rintro ⟨chooses, absent, builds⟩
    have comes : (Op.guarded guard key work?).policy? = some (used, settings) := by
      rw [Op.policy?, chooses, builds]
    refine ⟨?_, made_by_start comes absent⟩
    rw [entries_guarded, addition?, comes]
    simp [absent]

/-- An operation that comes with a policy is rejected, finds its debouncer or registers one. -/
theorem rejects_or_finds_or_registers (store : Store τ) (guard : Guard) (key : Value)
    (work? : Option (Work (Op τ) (Reply τ))) :
    (∃ fault, Rejects store guard key work? fault) ∨
      ∃ used, Registry.chooseKey key work? = .ok used ∧
        ((∃ id, store.registry.get? used = .ok (some id)) ∨
          ∃ settings, Registers store (.guarded guard key work?) used settings) := by
  cases chooses : Registry.chooseKey key work? with
  | error fault =>
      rw [Registry.chooseKey.eq_def] at chooses
      split at chooses
      · cases chooses
      · next sourceless => exact .inl ⟨_, .keyless rfl sourceless⟩
      · cases chooses
  | ok used =>
      cases looked : store.registry.get? used with
      | error fault =>
          cases obstacle : Key.obstacle? used with
          | some kindName => exact .inl ⟨_, .unhashable chooses obstacle⟩
          | none => simp [Registry.get?, Key.check, obstacle] at looked
      | ok id? =>
          cases id? with
          | some id => exact .inr ⟨used, rfl, .inl ⟨id, looked⟩⟩
          | none =>
              cases builds : Settings.build guard.interval guard.leading guard.idleTime with
              | error fault => exact .inl ⟨fault, .invalid chooses looked builds⟩
              | ok settings =>
                  exact .inr ⟨used, rfl, .inr ⟨settings,
                    registers_iff.mpr ⟨chooses, looked, builds⟩⟩⟩

namespace Rejects

omit [Instant τ] in
/-- A rejected operation fails with a fault about its key or about its policy. -/
theorem kind (rejects : Rejects store guard key work? fault) :
    fault.name = "TypeError" ∨ fault.name = "ConfigurationError" ∨
      fault = .durationUnderflow := by
  cases rejects with
  | keyless => exact .inl rfl
  | unhashable => exact .inl rfl
  | invalid _ _ builds =>
      right
      rcases Fault.of_build builds with ⟨complaints, rfl⟩ | rfl
      · exact .inl rfl
      · exact .inr rfl

/-- A rejected operation only fails. -/
theorem start_eq (rejects : Rejects store guard key work? fault) :
    start (.guarded guard key work?) store = answer store (.error fault) := by
  cases rejects with
  | keyless absent sourceless =>
      subst absent
      have refused : Registry.chooseKey .null work? = .error (.noKey (work?.map Work.name)) := by
        rw [Registry.chooseKey.eq_def, sourceless]
      rw [start, refused]
      rfl
  | @unhashable used kindName chooses obstacle =>
      have refused : store.registry.get? used = .error (.unhashable kindName) := by
        rw [Registry.get?, Key.check, obstacle]
      rw [start, chooses]
      simp only [Except.bind, Registry.getOrCreate, refused, bind]
  | invalid chooses absent builds =>
      rw [start, chooses]
      simp only [Except.bind, Registry.getOrCreate_of_invalid absent builds]

end Rejects

/-- A rejected registration changes nothing. An operation that comes with a policy and is rejected,
in any state whatever, also inside works, fails and leaves everything else: the registry with the
state of every debouncer, the timers and the clock, how often works have run and what is suspended.
The rest of the run, with operations on the same key or on others, is the one of a program that goes
on without having made the operation. An operation that is not rejected finds the debouncer of its
key or registers one. -/
theorem rejection_changes_nothing (state : State τ) (guard : Guard) (key : Value)
    (work? : Option (Work (Op τ) (Reply τ))) (next : Reply τ → Script (Op τ) (Reply τ))
    (begins : state.script = .step (.guarded guard key work?) next) :
    (∀ fault, Rejects state.store guard key work? fault →
      (fault.name = "TypeError" ∨ fault.name = "ConfigurationError" ∨
        fault = .durationUnderflow) ∧
      let without := { state with script := next (.error fault) }
      let failure : History τ :=
        [.began (.guarded guard key work?) state.stack.length,
          .ended (.guarded guard key work?) (.error fault) state.stack.length]
      machine.step? state = some { without with trace := state.trace ++ failure } ∧
        ∀ fuel, ∃ later,
          let rest := machine.run fuel without
          rest.trace = state.trace ++ later ∧
            machine.run (fuel + 1) state =
              { rest with trace := state.trace ++ failure ++ later }) ∧
    ((∀ fault, ¬ Rejects state.store guard key work? fault) →
      ∃ used, Registry.chooseKey key work? = .ok used ∧
        ((∃ id, state.store.registry.get? used = .ok (some id)) ∨
          ∃ settings, Registers state.store (.guarded guard key work?) used settings)) := by
  refine ⟨?_, fun accepted => (rejects_or_finds_or_registers state.store guard key
    work?).resolve_left (by simpa using accepted)⟩
  intro fault rejects
  refine ⟨rejects.kind, ?_⟩
  intro without failure
  have fails : machine.start (.guarded guard key work?) state.store =
      answer state.store (.error fault) := rejects.start_eq
  have stepped : machine.step? state = some { without with trace := state.trace ++ failure } := by
    rw [Machine.step?, begins]
    simp [Machine.settle, fails, answer, without, failure]
  refine ⟨stepped, ?_⟩
  intro fuel
  obtain ⟨later, recorded⟩ := (Machine.reaches_run machine fuel without).record_grows
  refine ⟨later, recorded.symm, ?_⟩
  have goesOn := Machine.run_record machine fuel without (state.trace ++ failure)
  rw [Machine.run, stepped]
  dsimp only
  rw [goesOn, ← recorded, List.drop_left]

/-- An empty range is rejected for a key that is not in use; the same key is then registered with a
policy of five seconds, as if it had never been asked for. -/
theorem rejection_changes_nothing_of_empty_range :
    let empty : Guard := .throttleFor (.list [])
    let valid : Guard := .throttleFor (.duration (.ofSeconds 5))
    let fault : Fault := .invalidPolicy [⟨["interval"], .notAPair⟩]
    let state := State.initial (0 : Rat)
      (.before [.guarded empty (.int 1) (some (.resting [0])),
        .guarded valid (.int 1) (some (.resting [0]))] (.done (.ok .nothing)))
    let without := State.initial (0 : Rat)
      (.before [.guarded valid (.int 1) (some (.resting [0]))] (.done (.ok .nothing)))
    Rejects state.store empty (.int 1) (some (.resting [0])) fault ∧
      (machine.step? state).map Config.store = some state.store ∧
      (machine.run 2 state).store = (machine.run 1 without).store ∧
      (machine.run 2 state).store.registry.find? (.int 1) = some 0 ∧
      ((machine.run 2 state).store.registry.debouncer? 0).map Debouncer.settings =
        some fiveSeconds := by
  intro empty valid fault state without
  let work : Work (Op Rat) (Reply Rat) := .resting [0]
  have chooses : Registry.chooseKey (.int 1) (some work) = .ok (.int 1) := rfl
  have rejects : Rejects state.store empty (.int 1) (some work) fault := .invalid chooses rfl rfl
  obtain ⟨-, stepped, runs⟩ := (rejection_changes_nothing state empty (.int 1) (some work)
    (fun _ => .before [.guarded valid (.int 1) (some work)] (.done (.ok .nothing))) rfl).1 fault
    rejects
  obtain ⟨later, -, same⟩ := runs 1
  refine ⟨rejects, ?_, ?_, by decide +kernel, by decide +kernel⟩
  · rw [stepped]
    rfl
  · rw [same]
    rfl

/-! ## Ranges of every shape -/

/-- Debouncing for a range registers a debouncer exactly when throttling for it would, which is when
the range is a valid interval, unless the range is a mapping. The debouncer has the interval that
the range is read as, and its begin as the idle time. A mapping is refused as an idle time, also
when it is a valid interval. -/
theorem debounceFor_registers_as_throttleFor (store : Store τ) (range key used : Value)
    (work? : Option (Work (Op τ) (Reply τ))) :
    (∀ plain, Registers store (.guarded (.throttleFor range) key work?) used plain ↔
      Registry.chooseKey key work? = .ok used ∧ store.registry.get? used = .ok none ∧
        Settings.build range (.bool false) .null = .ok plain) ∧
    (∀ settings, Registers store (.guarded (.debounceFor range) key work?) used settings ↔
      (∀ entries, range ≠ .mapping entries) ∧
        ∃ plain, Registers store (.guarded (.throttleFor range) key work?) used plain ∧
          settings.interval = plain.interval ∧ settings.leading = false ∧
          settings.idleTime = plain.interval.map Interval.begin) ∧
    ∀ entries plain, range = .mapping entries →
      Registers store (.guarded (.throttleFor range) key work?) used plain →
        Rejects store (.debounceFor range) key work?
          (.invalidPolicy [⟨["idle_time"], .notADuration⟩]) := by
  refine ⟨fun plain => registers_iff, fun settings => ?_, ?_⟩
  · constructor
    · intro registers
      obtain ⟨chooses, absent, built⟩ := registers_iff.mp registers
      obtain ⟨other, plain, plainBuilt, agrees⟩ := Guard.debounceFor_settings_eq_ok.mp built
      exact ⟨other, plain, registers_iff.mpr ⟨chooses, absent, plainBuilt⟩, agrees⟩
    · rintro ⟨other, plain, registers, agrees⟩
      obtain ⟨chooses, absent, plainBuilt⟩ := registers_iff.mp registers
      exact registers_iff.mpr ⟨chooses, absent,
        Guard.debounceFor_settings_eq_ok.mpr ⟨other, plain, plainBuilt, agrees⟩⟩
  · rintro entries plain rfl registers
    obtain ⟨chooses, absent, plainBuilt⟩ := registers_iff.mp registers
    exact .invalid chooses absent (Guard.debounceFor_mapping plainBuilt)

/-- A range of one to two seconds that is given as a mapping: throttling registers a debouncer for
it, and debouncing does not. -/
theorem debounceFor_refuses_mapping :
    let range : Value :=
      .mapping [("begin", .duration (.ofSeconds 1)), ("end", .duration (.ofSeconds 2))]
    let store := Store.new (0 : Rat)
    (∃ plain, Registers store (.guarded (.throttleFor range) (.text "k") (some (.resting [0])))
      (.text "k") plain) ∧
    ¬ ∃ settings, Registers store (.guarded (.debounceFor range) (.text "k") (some (.resting [0])))
      (.text "k") settings := by
  intro range store
  constructor
  · have built : ∃ plain, Settings.build range (.bool false) .null = .ok plain := ⟨_, rfl⟩
    obtain ⟨plain, built⟩ := built
    exact ⟨plain, registers_iff.mpr ⟨rfl, rfl, built⟩⟩
  · rintro ⟨settings, registers⟩
    obtain ⟨-, -, built⟩ := registers_iff.mp registers
    exact Guard.ne_mapping_of_settings built _ rfl

end RegistrySession

end Debounce
