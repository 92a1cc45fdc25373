import ImageRecipe.Command.Basic
import ImageRecipe.CommandLine.Options
import ImageRecipe.Log.Record

/-!
From a command line to a command and the verbosity of its log. Flags for the log may stand before
the command and behind it; where both are used, the ones behind it count.
-/
namespace ImageRecipe.CommandLine

structure Invocation where
  command : Command
  verbosity : Log.Verbosity
deriving DecidableEq, Repr

inductive CommandName where
  | generate
  | validate
  | help
deriving DecidableEq, Repr

namespace CommandName

def ofText? (text : String) : Option CommandName :=
  if text = "generate" then some generate
  else if text = "validate" then some validate
  else if text = "help" then some help
  else none

def flags : CommandName → List Flag
  | generate => [.verbose, .quiet, .help, .outputDir]
  | _ => [.verbose, .quiet, .help]

end CommandName

def leadingFlags : List Flag := [.verbose, .quiet, .help, .version]

def verbosity (verbose quiet : Nat) : Log.Verbosity :=
  .ofRank (Log.Level.info.rank + verbose - quiet)

def invocation (name : CommandName) (before behind : Options) : Invocation where
  command :=
    match name with
    | .generate => .generate behind.config behind.outputDir
    | _ => .validate behind.config
  verbosity :=
    verbosity (if behind.verbose = 0 then before.verbose else behind.verbose)
      (if behind.quiet = 0 then before.quiet else behind.quiet)

def helpOn : List String → Stop
  | [] => .help
  | [topic] => if (CommandName.ofText? topic).isSome then .help else .unknownCommand
  | _ => .unknownCommand

/-- A command with what stands behind it. The flags before it are judged last. -/
def readCommand (before : Options) (name : CommandName) (args : List String) :
    Except Stop Invocation :=
  match name with
  | .help => .error (helpOn args)
  | name => do
    let behind ← Options.start.read name.flags args
    return invocation name (← before.finish) behind

/-- Nothing can follow a separator where a command should stand. -/
def afterSeparator (before : Options) : List String → Stop
  | [] => if before = .start then .nothingGiven else .noCommand
  | text :: _ =>
    if (CommandName.ofText? text).isSome then .unknownArgument else .unknownCommand

def readFrom (before : Options) : List String → Except Stop Invocation
  | [] => .error (afterSeparator before [])
  | arg :: args =>
    match CommandName.ofText? arg with
    | some name => readCommand before name args
    | none =>
      match Word.ofText arg with
      | .separator => .error (afterSeparator before args)
      | .long name value => do readFrom (← before.addLong leadingFlags name value) args
      | .cluster letters => do readFrom (← before.addLetters leadingFlags letters) args
      | .plain _ => .error .unknownCommand

def read (args : List String) : Except Stop Invocation := readFrom .start args

end ImageRecipe.CommandLine
