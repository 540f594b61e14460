import Debounce.Proofs.Execution
import Debounce.Proofs.Keeping
import Debounce.Proofs.Variables
import Debounce.Session.Background

/-!
# Lifetimes of the settings and of the pool

The settings and the pool are both made when they are first needed and kept until they are dropped.
The pool is made from the settings, so whoever needs a pool that is not there may have the settings
read. In every run both stay consistent, and a failure leaves nothing behind.
-/

namespace Debounce

namespace Process

/-! ## The settings and the pool -/

namespace Step

/-- The reply to a step that asks for the settings. The pool asks for them only when it has to be
made. -/
def settings? (step : Step) : Option (Except Fault Reading) :=
  match step.use with
  | .tidy _ => none
  | .read => some step.before.settings.1
  | .submit | .openScheduler =>
      if step.before.pool.isNone then some step.before.settings.1 else none

/-- The reply to a step that asks for the pool. -/
def pool? (step : Step) : Option (Except Fault Pool) :=
  match step.use with
  | .tidy _ | .read => none
  | .submit | .openScheduler => some step.before.executor.1

/-- How a step ends. -/
def outcome (step : Step) : Except Fault Unit :=
  match step.use with
  | .tidy _ => .ok ()
  | .read => step.before.settings.1.map fun _ => ()
  | .submit | .openScheduler => step.before.executor.1.map fun _ => ()

end Step

section

variable (process : Process)

/-- The settings are cached, or the environment is read. What was read is cached, and a failure
changes nothing. -/
theorem settings_cases :
    (∃ reading, process.cached = some reading ∧ process.settings = (.ok reading, process)) ∨
    (∃ fault, process.cached = none ∧ process.environment.read = .error fault ∧
      process.settings = (.error fault, process)) ∨
    ∃ reading, process.cached = none ∧ process.environment.read = .ok reading.settings ∧
      reading.serial = process.readings ∧
      process.settings = (.ok reading, { process with
        cached := some reading
        readings := process.readings + 1 }) := by
  cases cached : process.cached with
  | some reading => exact .inl ⟨reading, rfl, settings_of_cached cached⟩
  | none =>
      cases read : process.environment.read with
      | error fault => exact .inr (.inl ⟨fault, rfl, rfl, settings_of_failed cached read⟩)
      | ok settings => exact .inr (.inr ⟨_, rfl, rfl, rfl, settings_of_read cached read⟩)

/-- The pool is there, or it is made from the settings. If there are none, nothing has changed. -/
theorem executor_cases :
    (∃ pool, process.pool = some pool ∧ process.executor = (.ok pool, process)) ∨
    (∃ fault, process.pool = none ∧ process.settings = (.error fault, process) ∧
      process.executor = (.error fault, process)) ∨
    ∃ reading later, process.pool = none ∧ process.settings = (.ok reading, later) ∧
      process.executor = (.ok ⟨reading.settings.workers, process.pools⟩, { later with
        pool := some ⟨reading.settings.workers, process.pools⟩
        pools := process.pools + 1 }) := by
  cases there : process.pool with
  | some pool => exact .inl ⟨pool, rfl, by rw [executor, there]⟩
  | none =>
      right
      obtain ⟨reading, -, served⟩ | ⟨fault, -, -, refused⟩ | ⟨reading, -, -, -, served⟩ :=
        process.settings_cases
      · exact .inr ⟨reading, _, rfl, served, by simp only [executor, there, served]⟩
      · exact .inl ⟨fault, rfl, refused, by simp only [executor, there, refused]⟩
      · exact .inr ⟨reading, _, rfl, served, by simp only [executor, there, served]⟩

/-- As long as nothing is cached, what is served is what the environment says. -/
theorem map_settings_of_empty (empty : process.cached = none) :
    process.settings.1.map Reading.settings = process.environment.read := by
  obtain ⟨reading, cached, -⟩ | ⟨fault, -, read, refused⟩ | ⟨reading, -, read, -, served⟩ :=
    process.settings_cases
  · rw [empty] at cached
    cases cached
  · rw [refused, read]
    rfl
  · rw [served, read]
    rfl

theorem change_settings : Change Reading.serial process.cached process.readings false
    (some process.settings.1) process.settings.2.cached process.settings.2.readings := by
  obtain ⟨reading, cached, served⟩ | ⟨fault, empty, -, refused⟩ |
    ⟨reading, empty, -, numbered, served⟩ := process.settings_cases
  · rw [served, cached]
    exact .serves
  · rw [refused, empty]
    exact .fails
  · rw [served, empty]
    exact .makes numbered

/-- Asking for the settings leaves the pool alone. -/
theorem pool_settings : process.settings.2.pool = process.pool ∧
    process.settings.2.pools = process.pools := by
  obtain ⟨_, -, served⟩ | ⟨_, -, -, refused⟩ | ⟨_, -, -, -, served⟩ := process.settings_cases
  · exact served ▸ ⟨rfl, rfl⟩
  · exact refused ▸ ⟨rfl, rfl⟩
  · exact served ▸ ⟨rfl, rfl⟩

theorem change_pool : Change Pool.serial process.pool process.pools false
    (some process.executor.1) process.executor.2.pool process.executor.2.pools := by
  obtain ⟨pool, there, served⟩ | ⟨fault, absent, -, refused⟩ | ⟨reading, later, absent, -, made⟩ :=
    process.executor_cases
  · rw [served, there]
    exact .serves
  · rw [refused, absent]
    exact .fails
  · rw [made, absent]
    exact .makes rfl

/-- The pool asks for the settings when it has to be made. -/
theorem change_settings_of_executor : Change Reading.serial process.cached process.readings false
    (if process.pool.isNone then some process.settings.1 else none)
    process.executor.2.cached process.executor.2.readings := by
  have asked := process.change_settings
  obtain ⟨pool, there, served⟩ | ⟨fault, absent, refused, fails⟩ |
    ⟨reading, later, absent, read, made⟩ := process.executor_cases
  · rw [there, served]
    exact .idles
  · rw [absent, fails]
    rwa [refused] at asked ⊢
  · rw [absent, made]
    rwa [read] at asked ⊢

end

theorem Step.change_settings (step : Step) :
    Change Reading.serial step.before.cached step.before.readings
      (step.use = .tidy .clearCache) step.settings? step.after.cached step.after.readings := by
  rcases step with ⟨before, use⟩
  cases use with
  | tidy chore =>
      cases chore with
      | clearCache => exact .drops
      | replaceEnvironment _ | setVariable _ _ | shutdown => exact .idles
  | read => exact before.change_settings
  | submit | openScheduler => exact before.change_settings_of_executor

theorem Step.change_pool (step : Step) :
    Change Pool.serial step.before.pool step.before.pools
      (step.use = .tidy .shutdown) step.pool? step.after.pool step.after.pools := by
  rcases step with ⟨before, use⟩
  cases use with
  | tidy chore =>
      cases chore with
      | shutdown => exact .drops
      | replaceEnvironment _ | setVariable _ _ | clearCache => exact .idles
  | read =>
      obtain ⟨pool, pools⟩ := before.pool_settings
      change Change _ _ _ _ _ before.settings.2.pool before.settings.2.pools
      rw [pool, pools]
      exact .idles
  | submit | openScheduler => exact before.change_pool

/-- The settings are kept in a cache until it is cleared. -/
def cache : Keeping Reading where
  kept := cached
  made := readings
  serial := Reading.serial
  drops use := use = .tidy .clearCache
  reply? := Step.settings?
  change := Step.change_settings

/-- The pool is kept until it is shut down. -/
def background : Keeping Pool where
  kept := pool
  made := pools
  serial := Pool.serial
  drops use := use = .tidy .shutdown
  reply? := Step.pool?
  change := Step.change_pool

/-! ## Failures -/

namespace Step

variable {step : Step} {fault : Fault}

/-- A step fails if and only if it asks for settings that cannot be read. -/
theorem outcome_eq_error : step.outcome = .error fault ↔ step.settings? = some (.error fault) := by
  rcases step with ⟨before, use⟩
  cases use with
  | tidy chore => simp [outcome, settings?]
  | read => simp [outcome, settings?, map_eq_error]
  | submit | openScheduler =>
      simp only [outcome, settings?, map_eq_error]
      obtain ⟨pool, there, served⟩ | ⟨fault, absent, refused, fails⟩ |
        ⟨reading, later, absent, read, made⟩ := before.executor_cases
      · simp [there, served]
      · simp [absent, refused, fails]
      · simp [absent, read, made]

/-- What a step that asks for the settings is told. -/
theorem settings?_eq_settings {reply : Except Fault Reading} (asked : step.settings? = some reply) :
    step.before.settings.1 = reply := by
  rcases step with ⟨before, use⟩
  cases use with
  | tidy chore => cases asked
  | read => exact Option.some.inj asked
  | submit | openScheduler =>
      simp only [settings?] at asked
      split at asked
      · exact Option.some.inj asked
      · cases asked

/-- Settings are refused if and only if they are asked for and cannot be read. -/
theorem settings?_eq_error : step.settings? = some (.error fault) ↔
    step.settings?.isSome ∧ step.before.cached = none ∧
      step.before.environment.read = .error fault := by
  constructor
  · intro failed
    have empty : step.before.cached = none := ((cache.change step).none_of_error failed).1
    refine ⟨by rw [failed]; rfl, empty, ?_⟩
    rw [← map_settings_of_empty _ empty, settings?_eq_settings failed]
    rfl
  · rintro ⟨asks, empty, read⟩
    obtain ⟨reply, asked⟩ := Option.isSome_iff_exists.mp asks
    rw [asked, ← settings?_eq_settings asked, settings_of_failed empty read]

/-- A step that fails leaves the process as it is, and there is no pool if it was to be made. -/
theorem after_of_failed (failed : step.settings? = some (.error fault)) :
    step.after = step.before ∧ (step.use ≠ .read → step.before.pool = none) := by
  have told := settings?_eq_settings failed
  rcases step with ⟨before, use⟩
  cases use with
  | tidy chore => cases failed
  | read =>
      refine ⟨?_, fun other => absurd rfl other⟩
      obtain ⟨_, -, served⟩ | ⟨_, -, -, refused⟩ | ⟨_, -, -, -, served⟩ := before.settings_cases
      · exact congrArg Prod.snd served
      · exact congrArg Prod.snd refused
      · cases served ▸ told
  | submit | openScheduler =>
      obtain ⟨pool, there, -⟩ | ⟨_, absent, -, fails⟩ | ⟨_, _, -, read, -⟩ := before.executor_cases
      · simp [settings?, there] at failed
      · exact ⟨congrArg Prod.snd fails, fun _ => absent⟩
      · cases read ▸ told

/-- Who makes the pool is served with settings, which are then the cached ones, and the pool has as
many workers as they say. -/
theorem settings_of_pool {pool : Pool} (absent : step.before.pool = none)
    (made : step.pool? = some (.ok pool)) : ∃ reading, step.settings? = some (.ok reading) ∧
      step.after.cached = some reading ∧ pool.workers = reading.settings.workers := by
  suffices asked : ∃ reading, step.settings? = some (.ok reading) ∧
      pool.workers = reading.settings.workers by
    obtain ⟨reading, served, workers⟩ := asked
    exact ⟨reading, served, (cache.change step).kept_of_ok served, workers⟩
  rcases step with ⟨before, use⟩
  cases use with
  | tidy chore => cases made
  | read => cases made
  | submit | openScheduler =>
      have replied : before.executor.1 = .ok pool := Option.some.inj made
      obtain ⟨pool, there, -⟩ | ⟨_, -, -, fails⟩ | ⟨reading, _, -, read, makes⟩ :=
        before.executor_cases
      · rw [there] at absent
        cases absent
      · cases fails ▸ replied
      · cases makes ▸ replied
        have asks : before.pool.isNone = true := Option.isNone_iff_eq_none.mpr absent
        exact ⟨reading, by simp [settings?, asks, read], rfl⟩

end Step

/-! ## Whole runs -/

/-- What holds of every step of a run, after the steps that it comes after. -/
structure IsConsistent (past : List Step) (step : Step) : Prop where
  /-- The settings that are served are those that the environment said when they were first served
  since the cache was cleared. -/
  settings_source : ∀ reading, step.settings? = some (.ok reading) →
    ∃ older maker newer, past ++ [step] = older ++ maker :: newer ∧
      cache.IsSource older maker newer reading ∧ maker.before.cached = none ∧
      maker.before.environment.read = .ok reading.settings
  /-- The very same settings are served again if and only if the cache has not been cleared. -/
  settings_same : ∀ older earlier newer former reading, past = older ++ earlier :: newer →
    earlier.settings? = some (.ok former) → step.settings? = some (.ok reading) →
      (reading = former ↔ ∀ between ∈ newer, between.use ≠ .tidy .clearCache)
  /-- After a failure the environment is read again, until the settings have been served. -/
  settings_retried : ∀ older failing newer fault, past = older ++ failing :: newer →
    failing.settings? = some (.error fault) →
    (∀ between ∈ newer, ∀ reading, between.settings? ≠ some (.ok reading)) →
    ∀ reply, step.settings? = some reply →
      reply.map Reading.settings = step.before.environment.read
  /-- The pool that is served was made when a pool was first asked for since the last shutdown, with
  as many workers as the settings said which were cached then. -/
  pool_source : ∀ pool, step.pool? = some (.ok pool) →
    ∃ older maker newer reading, past ++ [step] = older ++ maker :: newer ∧
      background.IsSource older maker newer pool ∧ maker.before.pool = none ∧
      maker.settings? = some (.ok reading) ∧ maker.after.cached = some reading ∧
      pool.workers = reading.settings.workers
  /-- The very same pool is served again if and only if it has not been shut down. -/
  pool_same : ∀ older earlier newer former pool, past = older ++ earlier :: newer →
    earlier.pool? = some (.ok former) → step.pool? = some (.ok pool) →
      (pool = former ↔ ∀ between ∈ newer, between.use ≠ .tidy .shutdown)
  /-- A step fails if and only if settings are needed that cannot be read. -/
  fails_iff : ∀ fault, step.outcome = .error fault ↔
    step.settings?.isSome ∧ step.before.cached = none ∧
      step.before.environment.read = .error fault
  /-- Nothing is made or dropped by a step that fails. -/
  failure : ∀ fault, step.outcome = .error fault → fault.name = "ConfigurationError" ∧
    step.after = step.before ∧ (step.use ≠ .read → step.after.pool = none)

/-- In every run that begins with an empty cache and without a pool, the settings and the pool stay
consistent. -/
theorem runs_are_consistent (environment : Environment) (uses : List Use) (use : Use) :
    let start : Process := { environment := environment }
    IsConsistent (start.steps uses) ⟨start.run uses, use⟩ := by
  intro start
  have noSettings : cache.kept start = none := rfl
  have noPool : background.kept start = none := rfl
  constructor
  case settings_source =>
    intro reading served
    obtain ⟨older, maker, newer, split, source, empty⟩ :=
      Keeping.exists_source_of_ok noSettings served
    refine ⟨older, maker, newer, split, source, empty, ?_⟩
    rw [← map_settings_of_empty _ empty, Step.settings?_eq_settings source.served]
    rfl
  case settings_same =>
    intro older earlier newer former reading split served servedAgain
    simpa [cache] using Keeping.eq_iff_undropped noSettings split served servedAgain
  case settings_retried =>
    intro older failing newer fault split failed silent reply asked
    have empty := cache.none_of_split split failed silent
    rw [← Step.settings?_eq_settings asked]
    exact map_settings_of_empty _ empty
  case pool_source =>
    intro pool served
    obtain ⟨older, maker, newer, split, source, absent⟩ :=
      Keeping.exists_source_of_ok noPool served
    obtain ⟨reading, asked, cached, workers⟩ := Step.settings_of_pool absent source.served
    exact ⟨older, maker, newer, reading, split, source, absent, asked, cached, workers⟩
  case pool_same =>
    intro older earlier newer former pool split served servedAgain
    simpa [background] using Keeping.eq_iff_undropped noPool split served servedAgain
  case fails_iff =>
    exact fun fault => Step.outcome_eq_error.trans Step.settings?_eq_error
  case failure =>
    intro fault failed
    rw [Step.outcome_eq_error] at failed
    obtain ⟨same, absent⟩ := Step.after_of_failed failed
    obtain ⟨-, -, read⟩ := Step.settings?_eq_error.mp failed
    refine ⟨(Environment.read_fault read).1, same, fun needed => ?_⟩
    rw [same]
    exact absent needed

end Process

/-! ## Sessions -/

namespace BackgroundSession

variable {τ : Type} {store : Store τ} {process : Process}

/-- The process has come to where it is from the given one by uses. -/
def Store.RunsFrom (process : Process) (store : Store τ) : Prop :=
  ∃ uses, store.process = process.run uses

theorem Store.RunsFrom.run {later : Store τ} (runs : store.RunsFrom process)
    (uses : List Process.Use) (same : later.process = store.process.run uses) :
    later.RunsFrom process := by
  obtain ⟨past, ran⟩ := runs
  exact ⟨past ++ uses, by rw [same, ran, Process.run_append]⟩

theorem process_runWork {work? : Option (Work (Op τ) (Reply τ))} {arguments : Arguments}
    {frame : Frame τ} {events : List (Event τ)} :
    (runWork store work? arguments frame events).store.process = store.process := by
  cases work? <;> rfl

theorem process_submit {work? : Option (Work (Op τ) (Reply τ))} {arguments : Arguments}
    {frame : Frame τ} : (submit store work? arguments frame).store.process = store.process := by
  rw [submit.eq_def]
  split
  · exact process_runWork
  · exact process_runWork
  · rfl

theorem process_withTimer {label : String} {act : TimerId → Outcome τ}
    (leaves : ∀ id, (act id).store.process = store.process) :
    (withTimer store label act).store.process = store.process := by
  rw [withTimer]
  split
  · rfl
  · exact leaves _

theorem run_tidy (chores : List Process.Chore) :
    chores.foldl Process.tidy process = process.run (chores.map .tidy) := by
  rw [Process.run, List.foldl_map]
  rfl

variable [Instant τ]

theorem process_runTask {id : TimerId} {task : Task τ} {frame : Frame τ} :
    (runTask store id task frame).store.process = store.process := by
  rw [runTask.eq_def]
  split
  · exact process_runWork
  · rw [take, Turn.effect_store]
  · rfl

theorem runsFrom_settle (runs : store.RunsFrom process) :
    (settle store).store.RunsFrom process := by
  rw [settle]
  split
  · exact runs
  · split
    · next failed => exact runs.run [.submit] (congrArg Prod.snd failed).symm
    · next made =>
        exact runs.run [.submit] (process_runTask.trans (congrArg Prod.snd made).symm)

theorem runsFrom_start (op : Op τ) (runs : store.RunsFrom process) :
    (start op store).store.RunsFrom process := by
  have kept {outcome : Outcome τ} (same : outcome.store.process = store.process) :
      outcome.store.RunsFrom process := runs.run [] same
  cases op with
  | tidy chores => exact runs.run _ (run_tidy chores)
  | submit work? arguments =>
      rw [start]
      split
      · next failed => exact runs.run [.submit] (congrArg Prod.snd failed).symm
      · next made =>
          exact runs.run [.submit] (process_submit.trans (congrArg Prod.snd made).symm)
  | settle => exact runsFrom_settle runs
  | request request =>
      apply kept
      rw [start]
      split
      · rfl
      · rw [take, Turn.effect_store]
  | schedule label delay work? => cases delay <;> exact kept rfl
  | cancel label => exact kept (process_withTimer fun id => rfl)
  | reschedule label time =>
      apply kept
      apply process_withTimer
      cases time <;> exact fun id => rfl
  | setClock time => cases time <;> exact kept rfl
  | report ending => cases ending <;> exact kept rfl
  | now | bind _ | clearContext => exact kept rfl

theorem runsFrom_resume (frame : Frame τ) (reply : Reply τ) (runs : store.RunsFrom process) :
    (resume frame reply store).store.RunsFrom process := by
  cases frame with
  | serving tail =>
      rw [resume]
      split
      · exact runs
      · exact runs
  | settling timer context =>
      have moved : Store.RunsFrom process { store with context := context } := runs
      exact runsFrom_settle moved
  | submitted context => exact runs

/-- Whatever a session does, its process has been used in one of the ways that runs are made of: its
scheduler was opened first. -/
theorem exists_run_of_reaches {clock : τ} {environment : Environment} {created : Store τ}
    {first last : Config (Op τ) (Reply τ) (Store τ) (Frame τ) (Event τ)}
    (create : Store.create clock environment = .ok created)
    (begins : first.store.process = created.process) (reaches : machine.Reaches first last) :
    ∃ uses, last.store.process =
      ({ environment := environment } : Process).run (.openScheduler :: uses) := by
  have opened : created.process = ({ environment := environment } : Process).after .openScheduler := by
    rw [Store.create] at create
    split at create
    · next made =>
        cases create
        exact (congrArg Prod.snd made).symm
    · cases create
  have runs := reaches.keeps_store (Store.RunsFrom created.process)
    (fun op _ runs => runsFrom_start op runs)
    (fun frame reply _ runs => runsFrom_resume frame reply runs) ⟨[], begins⟩
  obtain ⟨uses, ran⟩ := runs
  exact ⟨uses, by rw [ran, opened]; rfl⟩

end BackgroundSession

end Debounce
