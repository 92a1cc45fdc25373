import ImageRecipe.HealthCheck
import ImageRecipe.CopyRule
import ImageRecipe.OrderedMap

namespace ImageRecipe

structure CopyEntry where
  source : String
  destination : String := ""
  target : Option String := none
  user : Option String := none
  exported : Option Bool := none
deriving DecidableEq, Repr

structure Assembly where
  name : String := "maven"
  targetDir : Option String := none
  user : Option String := none
  exportTargetDir : Option Bool := none
deriving DecidableEq, Repr

/-- The target directory that is meant: the one given, else the name under the root. -/
def Assembly.target (a : Assembly) : String :=
  a.targetDir.getD ("/" ++ a.name)

structure Config where
  base : Option String := none
  /-- An extended reference to the base image, of which only the name counts. -/
  baseReference : Option (OrderedMap String) := none
  maintainer : Option String := none
  workdir : Option String := none
  user : Option String := none
  shell : Option Argument := none
  cmd : Option Argument := none
  entrypoint : Option Argument := none
  runs : List String := []
  ports : List String := []
  volumes : List String := []
  env : OrderedMap (Option String) := .empty
  labels : OrderedMap (Option String) := .empty
  optimise : Bool := false
  healthCheck : Option HealthCheck := none
  copies : List CopyEntry := []
  assemblies : List Assembly := []
  /-- Arguments for the build engine. -/
  buildArgs : Option (OrderedMap String) := none
  /-- Images that the build engine may take layers from. -/
  cacheFrom : List String := []
deriving DecidableEq, Repr

namespace Config

def fileName : String := "kiln.yml"

def baseImage (c : Config) : Option String :=
  c.base.or (c.baseReference.bind (·.get? "name"))

end Config

end ImageRecipe
