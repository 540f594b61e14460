import Debounce.Scheduler
import Debounce.Settings.Validation

/-!
# Debouncers

A debouncer filters a stream of calls and decides when the work supplied last actually runs.
Without an interval every call runs it. On the leading edge a call runs it at once, and the calls
of the period after that are ignored. On the trailing edge a call starts a timer, further calls
move it while the idle time keeps the period open, and the work runs when the timer fires. The end
of the interval caps the period in both modes.

This module holds the state of a debouncer, how one is made, and the rules about instants that
decide when its work runs.
-/

namespace Debounce

/-- A debouncer that holds works of type `ω` and reads a clock in `τ`. -/
structure Debouncer (τ ω : Type) where
  settings : Settings
  name : Value
  /-- The work supplied last. -/
  work : Option ω := none
  /-- The timer of the period in progress, on the trailing edge. -/
  timer : Option TimerId := none
  /-- When the period began. -/
  leadingTimestamp : Option τ := none
  /-- When the last call was made. -/
  lastCall : Option τ := none

namespace Debouncer

variable {τ ω : Type} [Instant τ]

/-- How far the beginning of a fresh period lies behind the clock, beyond the interval. -/
def rewind : τ := Instant.ofMicros 1000000

/-- The least spacing in seconds. -/
def begin (debouncer : Debouncer τ ω) : τ :=
  match debouncer.settings.interval with
  | none => Instant.zero
  | some interval => interval.begin.seconds

/-- The greatest spacing in seconds, if there is one. -/
def limit? (debouncer : Debouncer τ ω) : Option τ :=
  match debouncer.settings.interval with
  | none => none
  | some interval => interval.limit?.map Duration.seconds

/-- The idle time in seconds, if there is one. -/
def idleTime? (debouncer : Debouncer τ ω) : Option τ :=
  debouncer.settings.idleTime.map Duration.seconds

/-- On the leading edge, moves the instants back so far that the next call runs the work. -/
def rewound (debouncer : Debouncer τ ω) (now : τ) : Debouncer τ ω :=
  if debouncer.settings.leading && !debouncer.settings.passthrough then
    let stamp := now - debouncer.begin - rewind
    { debouncer with
      leadingTimestamp := some stamp
      lastCall := some (stamp - debouncer.idleTime?.getD Instant.zero) }
  else debouncer

/-- A new debouncer at the given clock reading. -/
def new (settings : Settings) (name : Value) (now : τ) : Debouncer τ ω :=
  rewound { settings := settings, name := name } now

/-- A new debouncer with a policy that is read from its parts. -/
def create (interval leading idleTime name : Value) (now : τ) : Except Fault (Debouncer τ ω) :=
  match Settings.build interval leading idleTime with
  | .ok settings => .ok (new settings name now)
  | .error fault => .error fault

/-- A new debouncer with the parts of a given policy. -/
def ofSettings (settings : Settings) (name : Value) (now : τ) : Except Fault (Debouncer τ ω) :=
  create settings.intervalValue settings.leadingValue settings.idleTimeValue name now

/-- The constructor form of a debouncer. -/
def constructorText (debouncer : Debouncer τ ω) : String :=
  "<Debouncer name=" ++ debouncer.name.constructorText
    ++ " interval=" ++ debouncer.settings.intervalValue.constructorText
    ++ " leading=" ++ debouncer.settings.leadingValue.constructorText
    ++ " idle_time=" ++ debouncer.settings.idleTimeValue.constructorText ++ ">"

/-- The call comes before the least spacing has passed. -/
def tooSoon (debouncer : Debouncer τ ω) (now : τ) : Bool :=
  match debouncer.leadingTimestamp with
  | none => false
  | some stamp => now < stamp + debouncer.begin

/-- The greatest spacing has passed. -/
def maxIntervalReached (debouncer : Debouncer τ ω) (now : τ) : Bool :=
  match debouncer.limit?, debouncer.leadingTimestamp with
  | some last, some stamp => stamp + last ≤ now
  | _, _ => false

/-- The idle time has passed since the last call. -/
def idle (debouncer : Debouncer τ ω) (now : τ) : Bool :=
  match debouncer.idleTime?, debouncer.lastCall with
  | some span, some call => call + span ≤ now
  | _, _ => true

/-- The gap since the last call is the idle time, within a microsecond. -/
def gapIsIdleTime (debouncer : Debouncer τ ω) (now span : τ) : Bool :=
  match debouncer.lastCall with
  | none => false
  | some call => Instant.near (now - call) span

/-- The delay of a new timer. Calls that are still closer together than the idle time keep the
period open for at least that long. -/
def firstDelay (debouncer : Debouncer τ ω) (now : τ) : τ :=
  match debouncer.idleTime?, debouncer.lastCall with
  | some span, some call =>
      if now - call < span then Instant.later debouncer.begin span else debouncer.begin
  | _, _ => debouncer.begin

/-- The time that a call asks the running timer of a period to be moved to. -/
def extension (debouncer : Debouncer τ ω) (stamp now : τ) : τ :=
  let earliest := stamp + debouncer.begin
  let wanted := match debouncer.idleTime? with
    | none => earliest
    | some span =>
        if debouncer.gapIsIdleTime now span then earliest
        else Instant.later earliest (now + span)
  match debouncer.limit? with
  | none => wanted
  | some last => Instant.sooner wanted (stamp + last)

end Debouncer

end Debounce
