import ImageRecipe.BaseDir
import ImageRecipe.Recipe.Basic

/-!
The steps by which a recipe is built up. A step on a single value replaces it, a step on a list
appends, a step on a map merges. Two of them can fail: a base directory must be valid, and no
variable of the merged environment may be empty. A step that fails changes nothing.
-/
namespace ImageRecipe

namespace Recipe

inductive Step where
  | baseImage (image : String)
  | maintainer (name : String)
  | workdir (dir : String)
  | baseDir (dir : String)
  | cmd (argument : Argument)
  | entrypoint (argument : Argument)
  | shell (argument : Argument)
  | healthCheck (check : HealthCheck)
  | assemblyUser (user : String)
  | user (user : String)
  | copy (source destination : String) (placement : Placement)
  | expose (ports : List String)
  | run (commands : List String)
  | volumes (paths : List String)
  | exportBaseDir (exported : Bool)
  | env (entries : List (String × String))
  | labels (entries : List (String × String))
  | optimise
deriving DecidableEq, Repr

def emptyKey? (entries : List (String × String)) : Option String :=
  (entries.find? fun entry => entry.2 = "").map Prod.fst

def mergeEnv (env : OrderedMap String) (entries : List (String × String)) :
    Except Fault (OrderedMap String) :=
  match emptyKey? (env.merge entries).toList with
  | some key => .error (.emptyEnvValue key)
  | none => .ok (env.merge entries)

def apply (r : Recipe) : Step → Except Fault Recipe
  | .baseImage image => .ok { r with baseImage := some image }
  | .maintainer name => .ok { r with maintainer := some name }
  | .workdir dir => .ok { r with workdir := some dir }
  | .baseDir dir => (BaseDir.check dir).map fun _ => { r with baseDir := dir }
  | .cmd argument => .ok { r with cmd := some argument }
  | .entrypoint argument => .ok { r with entrypoint := some argument }
  | .shell argument => .ok { r with shell := some argument }
  | .healthCheck check => .ok { r with healthCheck := some check }
  | .assemblyUser user => .ok { r with assemblyUser := some user }
  | .user user => .ok { r with user := some user }
  | .copy source destination placement =>
    .ok { r with copies := r.copies ++ [CopyRule.make source destination placement] }
  | .expose ports => .ok { r with ports := r.ports ++ ports }
  | .run commands => .ok { r with runs := r.runs ++ commands.filter (!Text.isBlankText ·) }
  | .volumes paths => .ok { r with volumes := r.volumes ++ paths }
  | .exportBaseDir exported => .ok { r with exportBaseDir := some exported }
  | .env entries => (mergeEnv r.env entries).map fun env => { r with env := env }
  | .labels entries => .ok { r with labels := r.labels.merge entries }
  | .optimise => .ok { r with optimise := true }

def applyAll (r : Recipe) : List Step → Except Fault Recipe
  | [] => .ok r
  | step :: steps => (r.apply step).bind fun next => next.applyAll steps

/-- The recipe after a step, which is the one before it if the step fails. -/
def advance (r : Recipe) (step : Step) : Recipe :=
  match r.apply step with
  | .ok next => next
  | .error _ => r

def run (r : Recipe) (steps : List Step) : Recipe :=
  steps.foldl advance r

end Recipe

end ImageRecipe
