import ImageRecipe.Config.Basic

namespace ImageRecipe

def firstRepeat? (seen : List String) : List String → Option String
  | [] => none
  | name :: names => if name ∈ seen then some name else firstRepeat? (name :: seen) names

/-- The versions of the build engine's interface that features came with. -/
inductive ApiVersion where
  | buildArgs
  | healthCheck
  | cacheFrom
deriving DecidableEq, Repr

def ApiVersion.text : ApiVersion → String
  | buildArgs => "1.21"
  | healthCheck => "1.24"
  | cacheFrom => "1.25"

namespace Config

def arguments (c : Config) : List Argument :=
  c.cmd.toList ++ c.entrypoint.toList ++ c.shell.toList

/-- The least version that has every feature in use. -/
def apiVersion (c : Config) : Option ApiVersion :=
  if !c.cacheFrom.isEmpty then some .cacheFrom
  else if c.healthCheck.isSome then some .healthCheck
  else if c.buildArgs.isSome then some .buildArgs
  else none

def validate (c : Config) : Except Fault (Option ApiVersion) := do
  match firstRepeat? [] (c.assemblies.map Assembly.name) with
  | some name => throw (.duplicateAssemblyName name)
  | none => pure ()
  c.arguments.forM Argument.check
  return c.apiVersion

end Config

end ImageRecipe
