namespace ImageRecipe.Log

inductive Level where
  | error
  | warn
  | info
  | debug
  | trace
deriving DecidableEq, Repr

/-- How far down a log goes: a level with all above it, or nothing. -/
inductive Verbosity where
  | off
  | upTo (level : Level)
deriving DecidableEq, Repr

def Level.rank : Level → Nat
  | error => 1
  | warn => 2
  | info => 3
  | debug => 4
  | trace => 5

def Level.name : Level → String
  | error => "ERROR"
  | warn => "WARN"
  | info => "INFO"
  | debug => "DEBUG"
  | trace => "TRACE"

namespace Verbosity

def rank : Verbosity → Nat
  | off => 0
  | upTo level => level.rank

def name : Verbosity → String
  | off => "OFF"
  | upTo level => level.name

def ofRank : Nat → Verbosity
  | 0 => off
  | 1 => upTo .error
  | 2 => upTo .warn
  | 3 => upTo .info
  | 4 => upTo .debug
  | _ => upTo .trace

def all : List Verbosity := (List.range 6).map ofRank

def ofName? (name : String) : Option Verbosity :=
  all.find? fun v => v.name.toList = name.toList.map Char.toUpper

def admits (v : Verbosity) (level : Level) : Bool := level.rank ≤ v.rank

end Verbosity

/-- A message with the part of the program it comes from. -/
structure Record where
  level : Level
  target : String
  message : String
deriving DecidableEq, Repr

def beforePath : List Char → List Char
  | ':' :: ':' :: _ => []
  | c :: cs => c :: beforePath cs
  | [] => []

/-- The library a record comes from: its target without the path inside the library. -/
def Record.origin (r : Record) : String :=
  String.ofList (beforePath r.target.toList)

def Level.label (level : Level) : String :=
  level.name ++ String.ofList (List.replicate (5 - level.name.length) ' ')

def Record.line (verbose : Bool) (r : Record) : String :=
  r.level.label ++ " " ++ (if verbose then "[" ++ r.origin ++ "] " else "") ++ r.message ++ "\n"

def padded (width n : Nat) : String :=
  String.ofList (List.replicate (width - n.repr.length) '0') ++ n.repr

def timeStamp (hour minute second millisecond : Nat) : String :=
  padded 2 hour ++ ":" ++ padded 2 minute ++ ":" ++ padded 2 second ++ "." ++
    padded 3 millisecond ++ " "

end ImageRecipe.Log
