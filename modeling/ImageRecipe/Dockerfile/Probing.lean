import ImageRecipe.Dockerfile.Instruction
import ImageRecipe.Dockerfile.TokenArray
import ImageRecipe.HealthCheck

namespace ImageRecipe

inductive ProbeOption where
  | interval
  | timeout
  | startPeriod
  | retries
deriving DecidableEq, Repr

namespace ProbeOption

def name : ProbeOption → String
  | interval => "interval"
  | timeout => "timeout"
  | startPeriod => "start-period"
  | retries => "retries"

def flag (option : ProbeOption) (value : String) : String :=
  "--" ++ option.name ++ "=" ++ value

end ProbeOption

def Probe.options (p : Probe) : List (ProbeOption × String) :=
  (p.interval.map fun v => (.interval, v)).toList ++
    (p.timeout.map fun v => (.timeout, v)).toList ++
    (p.startPeriod.map fun v => (.startPeriod, v)).toList ++
    (p.retries.map fun v => (.retries, v.toNat.repr)).toList

def HealthCheck.disabledWord : String := "NONE"

def HealthCheck.instruction : HealthCheck → Instruction
  | .probe p =>
    let command : Instruction := ⟨.cmd, [p.command.encode]⟩
    ⟨.healthcheck, p.options.map (fun option => option.1.flag option.2) ++ [command.inline]⟩
  | .disabled => ⟨.healthcheck, [disabledWord]⟩

end ImageRecipe
