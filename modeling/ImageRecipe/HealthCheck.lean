import ImageRecipe.Argument

namespace ImageRecipe

/-- A command that tells whether the container is well, and how often to run it. Times are texts
such as `30s` and are passed on as they are. -/
structure Probe where
  interval : Option String
  timeout : Option String
  startPeriod : Option String
  retries : Option UInt32
  command : Argument
deriving DecidableEq, Repr

inductive HealthCheck where
  | probe (probe : Probe)
  | disabled
deriving DecidableEq, Repr

namespace HealthCheck

structure Draft where
  mode : Option String
  interval : Option String
  timeout : Option String
  startPeriod : Option String
  retries : Option UInt32
  command : Option Argument
deriving DecidableEq, Repr

def probeMode : String := "cmd"

def disabledMode : String := "none"

def Draft.hasOptions (d : Draft) : Bool :=
  d.interval.isSome || d.timeout.isSome || d.startPeriod.isSome || d.retries.isSome ||
    d.command.isSome

/-- Without a mode a probe is meant. A probe needs a well-formed command; a check that is switched
off takes no options. -/
def Draft.resolve (d : Draft) : Except Fault HealthCheck :=
  let mode := d.mode.getD probeMode
  if mode = probeMode then
    match d.command with
    | none => .error .healthCheckWithoutCommand
    | some command =>
      command.check.map fun _ =>
        .probe ⟨d.interval, d.timeout, d.startPeriod, d.retries, command⟩
  else if mode = disabledMode then
    if d.hasOptions then .error .disabledHealthCheckWithOptions else .ok .disabled
  else .error (.unsupportedHealthCheckMode mode)

def draft : HealthCheck → Draft
  | probe p =>
    ⟨some probeMode, p.interval, p.timeout, p.startPeriod, p.retries, some p.command⟩
  | disabled => ⟨some disabledMode, none, none, none, none, none⟩

def command? : HealthCheck → Option Argument
  | probe p => some p.command
  | disabled => none

end HealthCheck

end ImageRecipe
