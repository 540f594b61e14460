import Debounce.Logging
import Debounce.Proofs.Checks
import Debounce.Proofs.Levels

/-!
# Environment variables

The process-wide settings are read if and only if both variables are well formed, and otherwise the
fault names those that are not, the log level first. A level that was read is one that the root
logger takes as it stands.
-/

namespace Debounce

open ProcessSettings (levelVariable workersVariable)

/-! ## Names of refused variables -/

namespace Fault

theorem foldl_of_nodup {seen names : List String} (distinct : (seen ++ names).Nodup) :
    names.foldl (fun seen name => if seen.contains name then seen else seen ++ [name]) seen =
      seen ++ names := by
  induction names generalizing seen with
  | nil => simp
  | cons name names ih =>
      have fresh : seen.contains name = false := by
        have apart := (List.nodup_append.mp distinct).2.2
        simpa using fun member => apart name member name List.mem_cons_self rfl
      have moved : seen ++ name :: names = seen ++ [name] ++ names := by simp
      rw [List.foldl_cons, fresh, if_neg Bool.false_ne_true, ih (moved ▸ distinct), moved]

/-- Names of which none is repeated are listed as they are. -/
theorem distinctNames_of_nodup {names : List String} (distinct : names.Nodup) :
    distinctNames names = ", ".intercalate names := by
  rw [distinctNames, foldl_of_nodup (by simpa using distinct), List.nil_append]

end Fault

namespace Checked

variable {α : Type} {part : String} {reading : Except Refusal α}

/-- A field that can only be refused has at most one complaint. -/
theorem parts_plainAtPath_sublist :
    (Complaint.parts (plainAtPath [part] reading).complaints).Sublist [part] := by
  cases reading with
  | ok a => exact List.nil_sublist _
  | error refusal => exact List.Sublist.refl _

theorem mem_parts_plainAtPath {name : String} :
    name ∈ Complaint.parts (plainAtPath [part] reading).complaints ↔
      name = part ∧ ¬ ∃ a, reading = .ok a :=
  (IsAbout.plainAtPath rfl reading).mem_parts plainAtPath_ne_underflow |>.trans
    (by simp only [plainAtPath_eq_ok])

end Checked

/-! ## Well-formed variables -/

namespace Environment

variable {environment : Environment} {level : Level} {workers : Int}

/-- The environment gives the log level: by default it is INFO, and otherwise the one with the name
that is left of the text when it is stripped of blanks and put in upper case. -/
def NamesLevel (environment : Environment) (level : Level) : Prop :=
  match environment.lookup levelVariable with
  | none => level = .info
  | some text => Text.upperCase (Text.trim Text.isBlank text.toList) = level.name.toList

/-- The environment gives the number of workers: by default there are four, and otherwise as many as
the text says, which must be more than none. -/
def NamesWorkers (environment : Environment) (workers : Int) : Prop :=
  match environment.lookup workersVariable with
  | none => workers = 4
  | some text => (Value.text text).toInteger = .ok workers ∧ 0 < workers

/-- The name is that of a variable which is not well formed. -/
def IsOffending (environment : Environment) (name : String) : Prop :=
  name = levelVariable ∧ (¬ ∃ level, environment.NamesLevel level) ∨
    name = workersVariable ∧ ¬ ∃ workers, environment.NamesWorkers workers

/-- The variables as fields. -/
def fields (environment : Environment) : List (String × Value) :=
  environment.map fun (name, value) => (name, .text value)

theorem field?_fields (environment : Environment) (name : String) :
    Value.field? environment.fields name = (environment.lookup name).map .text := by
  rw [Value.field?, fields]
  induction environment with
  | nil => rfl
  | cons entry environment ih =>
      rcases entry with ⟨other, text⟩
      rw [List.map_cons, List.lookup_cons, List.lookup_cons]
      cases name == other with
      | true => rfl
      | false => exact ih

/-- The reading of the log level. -/
def level? (environment : Environment) : Except Refusal Level :=
  match Value.field? environment.fields levelVariable with
  | none => .ok .info
  | some value => ProcessSettings.readLevel value

theorem four_pos : (0 : Int) < 4 := by decide

/-- The reading of the number of workers. -/
def workers? (environment : Environment) : Except Refusal { workers : Int // 0 < workers } :=
  match Value.field? environment.fields workersVariable with
  | none => .ok ⟨4, four_pos⟩
  | some value => ProcessSettings.readWorkers value

theorem level?_eq_ok : environment.level? = .ok level ↔ environment.NamesLevel level := by
  rw [level?, field?_fields, NamesLevel]
  cases environment.lookup levelVariable with
  | none => simp [eq_comm]
  | some text =>
      change ProcessSettings.readLevel (.text text) = _ ↔ _ = _
      rw [← Level.ofLooseName?_eq_some]
      simp only [ProcessSettings.readLevel, Value.toText]
      cases Level.ofLooseName? text <;> simp

theorem workers?_eq_ok (positive : 0 < workers) :
    environment.workers? = .ok ⟨workers, positive⟩ ↔ environment.NamesWorkers workers := by
  rw [workers?, field?_fields, NamesWorkers]
  cases environment.lookup workersVariable with
  | none => simp [eq_comm]
  | some text =>
      change ProcessSettings.readWorkers (.text text) = _ ↔ _ ∧ _
      rw [ProcessSettings.readWorkers]
      cases (Value.text text).toInteger with
      | error refusal => simp
      | ok given =>
          by_cases enough : 0 < given
          · simp only [dif_pos enough, Except.ok.injEq, Subtype.mk.injEq]
            exact ⟨fun same => ⟨same, same ▸ enough⟩, And.left⟩
          · simp only [dif_neg enough, reduceCtorEq, Except.ok.injEq, false_iff]
            rintro ⟨rfl, given⟩
            exact enough given

/-- A number of workers that the environment gives is at least one. -/
theorem NamesWorkers.pos (named : environment.NamesWorkers workers) : 0 < workers := by
  rw [NamesWorkers] at named
  split at named
  · omega
  · exact named.2

/-- The checks of both variables. -/
def check (environment : Environment) : Checked (Level × { workers : Int // 0 < workers }) :=
  .both (.plainAtPath [levelVariable] environment.level?)
    (.plainAtPath [workersVariable] environment.workers?)

theorem read_eq (environment : Environment) : environment.read =
    (environment.check.map fun (level, workers) =>
      { level := level, workers := workers.val, workers_pos := workers.property }).mapError
        (Fault.ofObjection .invalidEnvironment) := by
  rw [read]
  apply congrArg
  rw [ProcessSettings.ofFields]
  split
  · next objection refused =>
      have checked : environment.check = .error objection := refused
      rw [checked]
      rfl
  · next level workers read =>
      have checked : environment.check = .ok (level, workers) := read
      rw [checked]
      rfl

/-- The settings are read if and only if both variables are well formed, and they are as named. -/
theorem read_eq_ok {settings : ProcessSettings} : environment.read = .ok settings ↔
    environment.NamesLevel settings.level ∧ environment.NamesWorkers settings.workers := by
  rw [read_eq, mapError_eq_ok, map_eq_ok, ← level?_eq_ok, ← workers?_eq_ok settings.workers_pos]
  constructor
  · rintro ⟨⟨level, workers⟩, checked, rfl⟩
    obtain ⟨levelRead, workersRead⟩ := Checked.both_eq_ok.mp checked
    exact ⟨Checked.plainAtPath_eq_ok.mp levelRead, Checked.plainAtPath_eq_ok.mp workersRead⟩
  · rintro ⟨levelRead, workersRead⟩
    exact ⟨_, Checked.both_eq_ok.mpr
      ⟨Checked.plainAtPath_eq_ok.mpr levelRead, Checked.plainAtPath_eq_ok.mpr workersRead⟩, rfl⟩

/-- The reading succeeds if and only if both variables are well formed. -/
theorem read_succeeds_iff : (∃ settings, environment.read = .ok settings) ↔
    (∃ level, environment.NamesLevel level) ∧ ∃ workers, environment.NamesWorkers workers := by
  constructor
  · rintro ⟨settings, read⟩
    obtain ⟨level, workers⟩ := read_eq_ok.mp read
    exact ⟨⟨_, level⟩, ⟨_, workers⟩⟩
  · rintro ⟨⟨level, levelNamed⟩, ⟨workers, workersNamed⟩⟩
    exact ⟨⟨level, workers, workersNamed.pos⟩, read_eq_ok.mpr ⟨levelNamed, workersNamed⟩⟩

/-- A failed reading complains about the variables that are not well formed, each once. -/
theorem read_eq_error {fault : Fault} (failed : environment.read = .error fault) :
    ∃ complaints, fault = .invalidEnvironment complaints ∧
      (Complaint.parts complaints).Sublist [levelVariable, workersVariable] ∧
      ∀ name, name ∈ Complaint.parts complaints ↔ environment.IsOffending name := by
  rw [read_eq, mapError_eq_error] at failed
  obtain ⟨objection, checked, rfl⟩ := failed
  rw [map_eq_error] at checked
  cases objection with
  | underflow =>
      obtain level | workers := Checked.both_eq_underflow.mp checked
      · exact absurd level Checked.plainAtPath_ne_underflow
      · exact absurd workers Checked.plainAtPath_ne_underflow
  | refused complaints =>
      have gathered : complaints = environment.check.complaints := by rw [checked]; rfl
      rw [check, Checked.complaints_both Checked.plainAtPath_ne_underflow
        Checked.plainAtPath_ne_underflow] at gathered
      refine ⟨complaints, rfl, ?_, fun name => ?_⟩
      · rw [gathered, Complaint.parts_append]
        exact Checked.parts_plainAtPath_sublist.append Checked.parts_plainAtPath_sublist
      · have levels : (∃ level, environment.level? = .ok level) ↔
            ∃ level, environment.NamesLevel level := by simp only [level?_eq_ok]
        have numbers : (∃ workers, environment.workers? = .ok workers) ↔
            ∃ workers, environment.NamesWorkers workers := by
          constructor
          · rintro ⟨workers, read⟩
            exact ⟨workers.val, (workers?_eq_ok workers.property).mp read⟩
          · rintro ⟨workers, named⟩
            exact ⟨⟨workers, named.pos⟩, (workers?_eq_ok named.pos).mpr named⟩
        rw [gathered, Complaint.parts_append, List.mem_append, Checked.mem_parts_plainAtPath,
          Checked.mem_parts_plainAtPath, levels, numbers, IsOffending]

/-- The fault of a failed reading names the variables that are not well formed, each once and the
log level first. -/
theorem read_fault {fault : Fault} (failed : environment.read = .error fault) :
    fault.name = "ConfigurationError" ∧ ∃ names : List String,
      names.Sublist [levelVariable, workersVariable] ∧
      (∀ name, name ∈ names ↔ environment.IsOffending name) ∧
      fault.message = "Invalid environment variables: " ++ ", ".intercalate names := by
  obtain ⟨complaints, rfl, sublist, named⟩ := read_eq_error failed
  have distinct : (Complaint.parts complaints).Nodup := sublist.nodup (by decide)
  refine ⟨rfl, _, sublist, named, ?_⟩
  rw [← Fault.distinctNames_of_nodup distinct]
  rfl

end Environment

/-! ## The root logger at the level that was read -/

/-- The name of a level counts as that level. -/
theorem Threshold.ofValue_name (level : Level) :
    Threshold.ofValue (.text level.name) = .ok (.number level.number) := by
  rw [ofValue, Level.ofName?_eq_some.mpr rfl]

namespace Logger

variable {logger : Logger} {process later : Process} {reading : Reading}

/-- The root logger as it is set up at a level; it stays as it is if it has a handler already. -/
def setAt (logger : Logger) (level : Level) : Logger :=
  if logger.handled then logger
  else { logger with rootLevel := .number level.number, handled := true }

theorem setUp_name (logger : Logger) (level : Level) :
    logger.setUp (.text level.name) = .ok (logger.setAt level) := by
  rw [setUp, setAt, Threshold.ofValue_name]
  split <;> rfl

/-- Without a level the root logger is set up at the level of the process-wide settings. -/
theorem configure_of_settings (read : process.settings = (.ok reading, later)) :
    logger.configure none process = (.ok (logger.setAt reading.settings.level), later) := by
  simp only [configure, Option.getD_none, read, setUp_name]

end Logger

namespace Process

variable {process : Process}

theorem settings_of_cached {reading : Reading} (cached : process.cached = some reading) :
    process.settings = (.ok reading, process) := by
  rw [settings, cached]

/-- Without cached settings the environment is read, and what was read is kept. -/
theorem settings_of_read {settings : ProcessSettings} (empty : process.cached = none)
    (read : process.environment.read = .ok settings) : process.settings =
      (.ok ⟨settings, process.readings⟩, { process with
        cached := some ⟨settings, process.readings⟩
        readings := process.readings + 1 }) := by
  simp only [Process.settings, empty, read]

/-- A failed reading leaves everything as it is. -/
theorem settings_of_failed {fault : Fault} (empty : process.cached = none)
    (failed : process.environment.read = .error fault) :
    process.settings = (.error fault, process) := by
  simp only [settings, empty, failed]

/-- As long as nothing is cached, the settings are served if and only if both variables are well
formed. They are then as named, and the root logger takes the level as it stands. Otherwise the fault
names the variables that are not well formed, each once and the log level first, and nothing has
changed. -/
theorem settings_are_read_exactly (process : Process) (empty : process.cached = none) :
    ((∃ reading later, process.settings = (.ok reading, later)) ↔
      (∃ level, process.environment.NamesLevel level) ∧
        ∃ workers, process.environment.NamesWorkers workers) ∧
    (∀ reading later, process.settings = (.ok reading, later) →
      process.environment.NamesLevel reading.settings.level ∧
      process.environment.NamesWorkers reading.settings.workers ∧
      Threshold.ofValue (.text reading.settings.level.name) =
        .ok (.number reading.settings.level.number) ∧
      ∀ logger : Logger, ∀ start ∈ [process, later],
        logger.configure none start = (.ok (logger.setAt reading.settings.level), later)) ∧
    ∀ fault later, process.settings = (.error fault, later) →
      later = process ∧ fault.name = "ConfigurationError" ∧
      ∃ names : List String, names.Sublist [levelVariable, workersVariable] ∧
        (∀ name, name ∈ names ↔ process.environment.IsOffending name) ∧
        fault.message = "Invalid environment variables: " ++ ", ".intercalate names := by
  rw [← Environment.read_succeeds_iff]
  cases read : process.environment.read with
  | ok settings =>
      obtain ⟨levelNamed, workersNamed⟩ := Environment.read_eq_ok.mp read
      have served := settings_of_read empty read
      refine ⟨by simp [served], ?_, by simp [served]⟩
      intro reading later answered
      obtain ⟨same, rfl⟩ := Prod.mk.inj (served.symm.trans answered)
      cases Except.ok.inj same
      refine ⟨levelNamed, workersNamed, Threshold.ofValue_name _, ?_⟩
      intro logger start
      rw [List.mem_cons, List.mem_singleton]
      rintro (rfl | rfl)
      · exact Logger.configure_of_settings served
      · exact Logger.configure_of_settings (settings_of_cached rfl)
  | error fault =>
      have refused := settings_of_failed empty read
      refine ⟨by simp [refused], by simp [refused], ?_⟩
      intro fault later answered
      obtain ⟨same, rfl⟩ := Prod.mk.inj (refused.symm.trans answered)
      cases Except.error.inj same
      exact ⟨rfl, Environment.read_fault read⟩

/-- A level in small letters between blanks is read, and the root logger is set up at it. -/
theorem level_between_blanks_is_read :
    let process : Process := { environment := [(levelVariable, "\tdebug ")] }
    process.cached = none ∧ ∃ reading later, process.settings = (.ok reading, later) ∧
      reading.settings.level = .debug ∧
      Logger.configure {} none process = (.ok { rootLevel := .number 10, handled := true }, later) := by
  intro process
  have empty : process.cached = none := rfl
  obtain ⟨succeeds, asNamed, -⟩ := settings_are_read_exactly process empty
  have level : process.environment.NamesLevel .debug := by
    change Text.upperCase (Text.trim Text.isBlank "\tdebug ".toList) = Level.debug.name.toList
    decide +kernel
  obtain ⟨reading, later, served⟩ := succeeds.mpr ⟨⟨_, level⟩, ⟨4, rfl⟩⟩
  obtain ⟨named, -, -, configured⟩ := asNamed reading later served
  have same : reading.settings.level = .debug := by
    change _ = reading.settings.level.name.toList at named
    revert named
    cases reading.settings.level <;> decide +kernel
  refine ⟨empty, reading, later, served, same, ?_⟩
  rw [configured {} process List.mem_cons_self, same]
  rfl

end Process

end Debounce
