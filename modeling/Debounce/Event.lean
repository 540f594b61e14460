import Debounce.Agenda
import Debounce.Logging
import Debounce.Script

/-!
# Events

What happens during a run: works begin to run, and debouncers, clocks and the background pool act.
Most events are also reported as log entries.
-/

namespace Debounce

/-- What made a debouncer run its work. -/
inductive Cause where
  | call
  | callNow
  | flush
  | timer (timer : TimerId)
  deriving DecidableEq

/-- Something that happened at a clock with readings in `τ`. -/
inductive Event (τ : Type) where
  /-- A work began to run, at a clock reading and with bound context variables. -/
  | ran (work : WorkId) (name : String) (now : τ) (context : Fields)
  | executed (debouncer : Value) (cause : Cause)
  | wasReset (debouncer : Value)
  | timerStarted (debouncer : Value) (delay : τ)
  | timerMoved (debouncer : Value) (executionTime : τ)
  | timerFired (timer : TimerId) (executionTime : τ)
  | registered (key : String)
  /-- The pool took over the callback of a timer. -/
  | handedOver (timer : TimerId)
  /-- The pool could not take over the callback of a timer. -/
  | handOverFailed (timer : TimerId) (executionTime : τ) (fault : Fault)
  /-- A work that ran in the background failed, for a timer or for someone who waits for it. -/
  | workFailed (timer : Option TimerId) (fault : Fault)

/-- A log entry. -/
structure Entry where
  method : LogMethod
  event : String
  fields : Fields

/-- The log entry that reports an event. -/
def Event.entry? : Event Float → Option Entry
  | ran _ _ _ _ => none
  | executed debouncer _ => some ⟨.debug, "debounce_executed", [("debouncer", debouncer)]⟩
  | wasReset debouncer => some ⟨.debug, "debounce_reset", [("debouncer", debouncer)]⟩
  | timerStarted debouncer delay =>
      some ⟨.debug, "debounce_timer_started",
        [("debouncer", debouncer), ("delay", .float delay)]⟩
  | timerMoved debouncer time =>
      some ⟨.debug, "debounce_timer_rescheduled",
        [("debouncer", debouncer), ("execution_time", .float time)]⟩
  | timerFired _ time => some ⟨.debug, "manual_timer_fired", [("execution_time", .float time)]⟩
  | registered key => some ⟨.debug, "debouncer_registered", [("key", .text key)]⟩
  | handedOver _ => none
  | handOverFailed _ time _ =>
      some ⟨.exception, "debounced_work_failed", [("execution_time", .float time)]⟩
  | workFailed _ fault =>
      some ⟨.error, "debounced_work_failed", [("error", .text fault.constructorText)]⟩

end Debounce
