import Debounce.Environment

/-!
# The settings cache and the pool

The environment is read once, when the settings are first needed, and the result is kept until
the cache is cleared; a failed reading is not kept. The pool takes its size from the settings when
it is made, and lives until it is shut down.
-/

namespace Debounce

/-- Settings as they were read, with the number of the reading. -/
structure Reading where
  settings : ProcessSettings
  serial : Nat

/-- The pool of background workers. -/
structure Pool where
  workers : Int
  serial : Nat
  deriving DecidableEq

/-- The process-wide state: the environment, the cached settings and the pool, and how many of the
latter two have been made. -/
structure Process where
  environment : Environment := []
  cached : Option Reading := none
  readings : Nat := 0
  pool : Option Pool := none
  pools : Nat := 0

namespace Process

/-- The cached settings; they are read from the environment if there are none. -/
def settings (process : Process) : Except Fault Reading × Process :=
  match process.cached with
  | some reading => (.ok reading, process)
  | none => match process.environment.read with
      | .error fault => (.error fault, process)
      | .ok settings =>
          let reading : Reading := ⟨settings, process.readings⟩
          (.ok reading, { process with cached := some reading, readings := process.readings + 1 })

/-- The pool; it is made from the settings if there is none. -/
def executor (process : Process) : Except Fault Pool × Process :=
  match process.pool with
  | some pool => (.ok pool, process)
  | none => match process.settings with
      | (.error fault, process) => (.error fault, process)
      | (.ok reading, process) =>
          let pool : Pool := ⟨reading.settings.workers, process.pools⟩
          (.ok pool, { process with pool := some pool, pools := process.pools + 1 })

/-- A change to the process-wide state. -/
inductive Chore where
  | replaceEnvironment (environment : Environment)
  | setVariable (name : String) (value? : Option String)
  | clearCache
  | shutdown
  deriving DecidableEq

/-- Does a chore. -/
def tidy (process : Process) : Chore → Process
  | .replaceEnvironment environment => { process with environment := environment }
  | .setVariable name value? =>
      { process with environment := process.environment.set name value? }
  | .clearCache => { process with cached := none }
  | .shutdown => { process with pool := none }

end Process

/-- A reader of the process-wide settings, who remembers which reading was served last. -/
structure SettingsReader where
  process : Process := {}
  lastServed : Option Nat := none

namespace SettingsReader

/-- Does a chore. -/
def tidy (reader : SettingsReader) (chore : Process.Chore) : SettingsReader :=
  { reader with process := reader.process.tidy chore }

/-- Asks for the settings; with them comes whether they are the very ones served before. -/
def read (reader : SettingsReader) : Except Fault (ProcessSettings × Bool) × SettingsReader :=
  match reader.process.settings with
  | (.error fault, process) => (.error fault, { reader with process := process })
  | (.ok reading, process) =>
      (.ok (reading.settings, reader.lastServed == some reading.serial),
        { process := process, lastServed := some reading.serial })

end SettingsReader

end Debounce
