import ImageRecipe.CopyRule
import ImageRecipe.HealthCheck
import ImageRecipe.OrderedMap

namespace ImageRecipe

structure Recipe where
  baseImage : Option String
  maintainer : Option String
  workdir : Option String
  baseDir : String
  entrypoint : Option Argument
  cmd : Option Argument
  exportBaseDir : Option Bool
  assemblyUser : Option String
  user : Option String
  healthCheck : Option HealthCheck
  copies : List CopyRule
  ports : List String
  shell : Option Argument
  runs : List String
  env : OrderedMap String
  labels : OrderedMap String
  volumes : List String
  optimise : Bool
deriving DecidableEq, Repr

namespace Recipe

/-- The image that stands in for a missing base image. -/
def defaultImage : String := "busybox:latest"

def defaultBaseDir : String := "/maven"

def start : Recipe where
  baseImage := none
  maintainer := none
  workdir := none
  baseDir := defaultBaseDir
  entrypoint := none
  cmd := none
  exportBaseDir := none
  assemblyUser := none
  user := none
  healthCheck := none
  copies := []
  ports := []
  shell := none
  runs := []
  env := .empty
  labels := .empty
  volumes := []
  optimise := false

def image (r : Recipe) : String := r.baseImage.getD defaultImage

def hasBaseImage (r : Recipe) : Bool := r.baseImage.isSome

def arguments (r : Recipe) : List Argument :=
  r.cmd.toList ++ r.entrypoint.toList ++ r.shell.toList ++
    (r.healthCheck.bind HealthCheck.command?).toList

end Recipe

end ImageRecipe
