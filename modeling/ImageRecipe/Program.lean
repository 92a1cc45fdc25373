import ImageRecipe.Command.Running
import ImageRecipe.CommandLine.Invocation
import ImageRecipe.Log.Filter

namespace ImageRecipe

open CommandLine

namespace CommandLine.Stop

def versionText : String := "kiln 0.3.1\n"

def helpText : String :=
  "Makes a Dockerfile from a build configuration.\n\n" ++
    "Usage: kiln [FLAGS] <COMMAND>\n\n" ++
    "Commands:\n" ++
    "  generate [CONFIG] [-o DIR]  Make the Dockerfile and print it, or write it into DIR\n" ++
    "  validate [CONFIG]           Check the configuration\n" ++
    "  help [COMMAND]              Show this text\n\n" ++
    "Flags:\n" ++
    "  -v, --verbose  Log more\n" ++
    "  -q, --quiet    Log less\n" ++
    "  -h, --help     Show this text\n" ++
    "  -V, --version  Show the version\n"

def message : Stop → String
  | help => helpText
  | version => versionText
  | nothingGiven => helpText
  | noCommand => "error: a command is required\n"
  | unknownCommand => "error: there is no such command\n"
  | unknownArgument => "error: an argument was not expected\n"
  | missingValue => "error: a value is required\n"
  | needlessValue => "error: a flag takes no value\n"
  | conflict => "error: arguments cannot be used together\n"

def exitCode (s : Stop) : UInt32 := if s.isAnswer then 0 else 2

end CommandLine.Stop

def Failure.record (f : Failure) : Log.Record :=
  ⟨.error, "kiln::commands", "\n  caused by: ".intercalate f.chain⟩

namespace Run

/-- All records of a run, with the failure as the last one. -/
def log (r : Run) : List Log.Record :=
  match r.result with
  | .ok () => r.records
  | .error failure => r.records ++ [failure.record]

def exitCode (r : Run) : UInt32 :=
  match r.result with
  | .ok () => 0
  | .error _ => 1

end Run

structure Ending where
  exitCode : UInt32
  printed : String
  logged : String
  tree : FileTree

def FileTree.runProgram (t : FileTree) (args : List String) (filter : Option String)
    (s : Setting := {}) : Ending :=
  match CommandLine.read args with
  | .error stop =>
    if stop.isAnswer then ⟨stop.exitCode, stop.message, "", t⟩
    else ⟨stop.exitCode, "", stop.message, t⟩
  | .ok invocation =>
    let run := t.run invocation.command s
    let setup := Log.Setup.ofVerbosity invocation.verbosity filter
    ⟨run.exitCode, run.printed, setup.text run.log, run.tree⟩

end ImageRecipe
