import ImageRecipe.Log.Record
import ImageRecipe.Text.Blank

/-!
Filters of the log. A filter is a default verbosity with directives for targets, of which the one
with the longest matching target decides. Its written form is a list with commas: a level alone
sets the default, a target alone shows everything of it, both with an equals sign belong together.
-/
namespace ImageRecipe.Log

structure Directive where
  target : String
  verbosity : Verbosity
deriving DecidableEq, Repr

def Directive.applies (d : Directive) (target : String) : Bool :=
  d.target.toList.isPrefixOf target.toList

/-- A default, which applies where no directive does, the directives, and a text that messages must
contain. -/
structure Filter where
  default : Verbosity
  directives : List Directive
  needle : String
deriving DecidableEq, Repr

namespace Filter

def ofVerbosity (v : Verbosity) : Filter := ⟨v, [], ""⟩

/-- Of the directives that apply, the one with the longest target. -/
def directiveFor? (f : Filter) (target : String) : Option Directive :=
  (f.directives.filter (Directive.applies · target)).foldl
    (fun best d =>
      match best with
      | some b => if b.target.length ≤ d.target.length then some d else some b
      | none => some d)
    none

def verbosityFor (f : Filter) (target : String) : Verbosity :=
  ((f.directiveFor? target).map (·.verbosity)).getD f.default

def occursIn (needle : List Char) : List Char → Bool
  | [] => needle.isEmpty
  | c :: cs => needle.isPrefixOf (c :: cs) || occursIn needle cs

def admits (f : Filter) (r : Record) : Bool :=
  (f.verbosityFor r.target).admits r.level && occursIn f.needle.toList r.message.toList

def maximum (f : Filter) : Verbosity :=
  f.directives.foldl
    (fun most d => if most.rank < d.verbosity.rank then d.verbosity else most) f.default

def setTarget (f : Filter) (d : Directive) : Filter :=
  if f.directives.any (·.target = d.target) then
    { f with directives := f.directives.map fun old => if old.target = d.target then d else old }
  else { f with directives := f.directives ++ [d] }

def everything : Verbosity := .upTo .trace

def addItem (f : Filter) (item : String) : Except String Filter :=
  match Text.pieces '=' item with
  | [one] =>
    match Verbosity.ofName? one with
    | some v => .ok { f with default := v }
    | none => .ok (f.setTarget ⟨one, everything⟩)
  | [target, level] =>
    let level := Text.trim level
    if level = "" then .ok (f.setTarget ⟨target, everything⟩)
    else
      match Verbosity.ofName? level with
      | some v => .ok (f.setTarget ⟨target, v⟩)
      | none => .error ("invalid logging spec '" ++ level ++ "'")
  | _ => .error ("invalid logging spec '" ++ item ++ "'")

def addItems (f : Filter) : List String → Filter × List String
  | [] => (f, [])
  | item :: items =>
    match f.addItem item with
    | .ok f => f.addItems items
    | .error error => let (f, errors) := f.addItems items; (f, error :: errors)

/-- Adds a filter in its written form. What follows a slash must occur in a message. -/
def add (f : Filter) (written : String) : Filter × List String :=
  match Text.pieces '/' written with
  | items :: rest =>
    let items := ((Text.pieces ',' items).map Text.trim).filter (· ≠ "")
    match rest with
    | [] => f.addItems items
    | [needle] => { f with needle := needle }.addItems items
    | _ => (f, ["invalid logging spec '" ++ written ++ "' (too many '/'s)"])
  | [] => (f, [])

def warning (error : String) : String :=
  "warning: error parsing logger filter: " ++ error ++ ", ignoring it\n"

end Filter

structure Setup where
  filter : Filter
  verbose : Bool
  warnings : List String
deriving DecidableEq, Repr

namespace Setup

/-- A verbosity given on the command line, and a filter from the environment on top of it. -/
def ofVerbosity (v : Verbosity) (filter : Option String) : Setup :=
  let (filter, errors) := (filter.map (Filter.ofVerbosity v).add).getD (.ofVerbosity v, [])
  ⟨filter, v.admits .debug, errors.map Filter.warning⟩

def shown (s : Setup) (r : Record) : String :=
  if s.filter.admits r then r.line s.verbose else ""

def text (s : Setup) (records : List Record) : String :=
  String.join s.warnings ++ String.join (records.map s.shown)

def alreadySetUp : String :=
  "Logger already initialized: attempted to set a logger after the logging system was already " ++
    "initialized\n"

def filterVariable : String := "KILN_LOG"

end Setup

end ImageRecipe.Log
