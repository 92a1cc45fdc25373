import ImageRecipe.Text.Trim

/-!
The options of a command line. An argument is a word: a long flag, a cluster of one-letter flags,
the separator after which there are no more flags, or a plain text. `Options` is what the words so
far amount to; a value that was given is looked at when the next thing that matters comes up.
-/
namespace ImageRecipe.CommandLine

inductive Stop where
  | help
  | version
  | nothingGiven
  | noCommand
  | unknownCommand
  | unknownArgument
  | missingValue
  | needlessValue
  | conflict
deriving DecidableEq, Repr

def Stop.isAnswer : Stop → Bool
  | help => true
  | version => true
  | _ => false

inductive Flag where
  | verbose
  | quiet
  | help
  | version
  | outputDir
deriving DecidableEq, Repr

namespace Flag

def name : Flag → String
  | verbose => "verbose"
  | quiet => "quiet"
  | help => "help"
  | version => "version"
  | outputDir => "output-dir"

def letter : Flag → Char
  | verbose => 'v'
  | quiet => 'q'
  | help => 'h'
  | version => 'V'
  | outputDir => 'o'

end Flag

inductive Word where
  | separator
  | long (name : String) (value : Option String)
  | cluster (letters : List Char)
  | plain (text : String)
deriving DecidableEq, Repr

def Word.ofLong (cs : List Char) : Word :=
  let name := cs.takeWhile (· ≠ '=')
  match cs.dropWhile (· ≠ '=') with
  | [] => .long (String.ofList name) none
  | _ :: value => .long (String.ofList name) (some (String.ofList value))

def Word.ofText (text : String) : Word :=
  match text.toList with
  | ['-', '-'] => .separator
  | '-' :: '-' :: cs => .ofLong cs
  | '-' :: c :: cs => .cluster (c :: cs)
  | _ => .plain text

/-- A value that was begun or given, but not looked at yet. -/
inductive Awaited where
  | config (path : String)
  | outputDir (path : Option String)
deriving DecidableEq, Repr

structure Options where
  verbose : Nat
  quiet : Nat
  config : Option String
  outputDir : Option String
  awaited : Option Awaited
deriving DecidableEq, Repr

namespace Options

def start : Options := ⟨0, 0, none, none, none⟩

def setOutputDir (o : Options) (path : String) : Except Stop Options :=
  if o.outputDir.isSome then .error .conflict
  else if path = "" then .error .missingValue
  else .ok { o with outputDir := some path }

def settle (o : Options) : Except Stop Options :=
  let settled := { o with awaited := none }
  match o.awaited with
  | none => .ok o
  | some (.config path) =>
    if path = "" then .error .missingValue else .ok { settled with config := some path }
  | some (.outputDir none) => .error .missingValue
  | some (.outputDir (some path)) => settled.setOutputDir path

def mostRepeats : Nat := 255

def raise (o : Options) : Flag → Except Stop Options
  | .verbose => .ok { o with verbose := min (o.verbose + 1) mostRepeats }
  | .quiet => .ok { o with quiet := min (o.quiet + 1) mostRepeats }
  | .help => .error .help
  | .version => .error .version
  | .outputDir => .ok { o with awaited := some (.outputDir none) }

/-- The flags of a cluster. What follows the letter of a directory is its path, with or without an
equals sign between them. -/
def addLetters (flags : List Flag) (o : Options) : List Char → Except Stop Options
  | [] => .ok o
  | c :: cs =>
    match flags.find? (·.letter = c), cs with
    | none, _ => .error .unknownArgument
    | some .outputDir, '=' :: path => do (← o.settle).setOutputDir (String.ofList path)
    | some .outputDir, d :: path => do (← o.settle).setOutputDir (String.ofList (d :: path))
    | some flag, _ => do ((← (← o.settle).raise flag).addLetters flags cs)

def addLong (flags : List Flag) (o : Options) (name : String) (value : Option String) :
    Except Stop Options :=
  match flags.find? (·.name = name), value with
  | none, _ => .error .unknownArgument
  | some .outputDir, some path => do (← o.settle).setOutputDir path
  | some _, some _ => .error .needlessValue
  | some flag, none => do (← o.settle).raise flag

def addConfig (o : Options) (path : String) : Except Stop Options :=
  let given : Bool :=
    match o.awaited with
    | some (.config _) => true
    | _ => o.config.isSome
  if given then .error .unknownArgument
  else o.settle.map fun o => { o with awaited := some (.config path) }

def addText (o : Options) (text : String) : Except Stop Options :=
  match o.awaited with
  | some (.outputDir none) => .ok { o with awaited := some (.outputDir (some text)) }
  | _ => o.addConfig text

/-- What a level asks for in the end. The log cannot be both louder and quieter. -/
def finish (o : Options) : Except Stop Options := do
  let o ← o.settle
  if o.verbose ≠ 0 && o.quiet ≠ 0 then throw .conflict else return o

def read (flags : List Flag) (o : Options) : List String → Except Stop Options
  | [] => o.finish
  | arg :: args =>
    match Word.ofText arg with
    | .separator => do (← args.foldlM addConfig o).finish
    | .long name value => do (← o.addLong flags name value).read flags args
    | .cluster letters => do (← o.addLetters flags letters).read flags args
    | .plain text => do (← o.addText text).read flags args

end Options

end ImageRecipe.CommandLine
