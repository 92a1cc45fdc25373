import ImageRecipe.Fault
import ImageRecipe.Text.Blank

namespace ImageRecipe

inductive Argument where
  | shell (command : String)
  | exec (tokens : List String)
deriving DecidableEq, Repr

namespace Argument

def check : Argument → Except Fault Unit
  | exec [] => .error .malformedArgument
  | _ => .ok ()

def tokens : Argument → List String
  | shell command => Text.words command
  | exec tokens => tokens

inductive Draft where
  | plain (command : String)
  | forms (shell : Option String) (exec : Option (List String))
deriving DecidableEq, Repr

/-- Exactly one form must carry a value. An exec form without tokens carries none; a shell form
carries one even if it is empty. -/
def Draft.resolve : Draft → Except Fault Argument
  | .plain command => .ok (.shell command)
  | .forms (some command) none => .ok (.shell command)
  | .forms (some command) (some []) => .ok (.shell command)
  | .forms none (some (token :: tokens)) => .ok (.exec (token :: tokens))
  | .forms _ _ => .error .malformedArgument

def draft : Argument → Draft
  | shell command => .forms (some command) none
  | exec tokens => .forms none (some tokens)

end Argument

end ImageRecipe
