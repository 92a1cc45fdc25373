import ImageRecipe.Program
import Std.Time.Zoned

namespace ImageRecipe

open Log

def Refusal.ofError : IO.Error → Refusal
  | .noFileOrDirectory .. => .notFound
  | .inappropriateType _ 20 _ => .notDirectory
  | .inappropriateType _ 21 _ => .isDirectory
  | .permissionDenied _ 13 _ => .denied
  | error => .other error.toString

def attempt {α : Type} (action : IO α) : IO (Except Refusal α) := do
  try
    return .ok (← action)
  catch e =>
    return .error (Refusal.ofError e)

def readTextFile (path : String) : IO (Except Refusal String) := do
  match ← attempt (IO.FS.readBinFile path) with
  | .error refusal => return .error refusal
  | .ok content =>
    match String.fromUTF8? content with
    | some text => return .ok text
    | none => return .error .notText

def stampNow : IO String := do
  let now ← Std.Time.PlainTime.now
  return timeStamp now.hour.val.toNat now.minute.val.toNat now.second.val.toNat
    (now.nanosecond.val.toNat / 1000000)

def writeLog (setup : Setup) (records : List Record) : IO Unit := do
  for r in records do
    let line := setup.shown r
    if line ≠ "" then
      if setup.verbose then IO.eprint (← stampNow)
      IO.eprint line

/-- Does what is left to do; gives the records of that. -/
def deliver : Delivery → IO (Except Failure (List Record))
  | .nothing => return .ok []
  | .print text => do
    IO.print text
    return .ok []
  | .write path text => do
    match ← attempt (IO.FS.writeFile path text) with
    | .ok () => return .ok (Command.writtenNotes path)
    | .error refusal => return .error (.unwritable path refusal)

def runCommand (setup : Setup) (command : Command) : IO UInt32 := do
  IO.eprint (String.join setup.warnings)
  let plan := command.plan (← readTextFile command.configPath)
  writeLog setup plan.records
  let outcome ←
    match plan.result with
    | .ok delivery => deliver delivery
    | .error failure => pure (.error failure)
  match outcome with
  | .ok records =>
    writeLog setup records
    return 0
  | .error failure =>
    writeLog setup [failure.record]
    return 1

end ImageRecipe

open ImageRecipe

def main (args : List String) : IO UInt32 := do
  match CommandLine.read args with
  | .error stop =>
    if stop.isAnswer then IO.print stop.message else IO.eprint stop.message
    return stop.exitCode
  | .ok invocation =>
    let filter ← IO.getEnv Log.Setup.filterVariable
    runCommand (Log.Setup.ofVerbosity invocation.verbosity filter) invocation.command
