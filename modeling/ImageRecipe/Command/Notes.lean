import ImageRecipe.Config.Recipe
import ImageRecipe.Dockerfile.Rendering
import ImageRecipe.Log.Record

/-!
What the log tells of a configuration, of its Dockerfile and of the commands. A record is a
function of the value it is about, so that the computations themselves stay without a log.
-/
namespace ImageRecipe

open Log

namespace Config

def origin : String := "kiln_recipe::build_config"

def contentsNote (text : String) : Record :=
  ⟨.debug, origin, "Build config contents: " ++ text⟩

/-- Arguments for the build engine do not reach the Dockerfile. -/
def argumentNotes (c : Config) : List Record :=
  if c.buildArgs.isSome then
    [⟨.warn, origin,
      "Build args are passed to the build engine and are not part of the Dockerfile"⟩]
  else []

def emptinessNotes (r : Recipe) : List Record :=
  if r.copies.isEmpty && !r.hasBaseImage then
    [⟨.warn, "kiln_recipe::build_spec", "Neither a base image nor copy rules are configured"⟩]
  else []

/-- What is noted on the way from a configuration to its recipe. The environment is looked at
last, so a fault in it comes after the first of the notes. -/
def notes (c : Config) : List Record :=
  match c.toRecipe with
  | .ok r => c.argumentNotes ++ emptinessNotes r
  | .error (.emptyEnvValue _) => c.argumentNotes
  | .error _ => []

end Config

namespace Recipe

def origin : String := "kiln_template"

def mergeNotes (r : Recipe) : List Record :=
  if r.optimise && !r.runs.isEmpty then
    [⟨.debug, origin,
      "Merging " ++ r.runs.length.repr ++ " RUN commands into one layer"⟩]
  else []

def ownershipNotes (r : Recipe) (rule : CopyRule) : List Record :=
  match r.copyUser rule with
  | none => []
  | some user =>
    if (Ownership.ofUser user).chown.isSome then []
    else
      [⟨.debug, origin,
        "No owner in '" ++ user ++ "', copying " ++ rule.source ++ " without --chown"⟩]

def exportNote (rule : CopyRule) : Record :=
  ⟨.debug, origin, "Exporting target of " ++ rule.source ++ " as a volume"⟩

/-- What is noted while a Dockerfile is made. A fault comes before all of it. -/
def notes (r : Recipe) : List Record :=
  match r.check with
  | .ok _ =>
    r.mergeNotes ++ r.copies.flatMap r.ownershipNotes ++
      (r.copies.filter r.exportsTarget).map exportNote
  | .error _ => []

end Recipe

namespace Command

def generateOrigin : String := "kiln::commands::generate"

def validateOrigin : String := "kiln::commands::validate"

def startNote (path : String) : Record :=
  ⟨.info, generateOrigin, "Generating Dockerfile for " ++ path⟩

def printNote : Record := ⟨.debug, generateOrigin, "Rendering to stdout"⟩

def writtenNotes (path : String) : List Record :=
  [⟨.debug, Recipe.origin, "Wrote " ++ path⟩, ⟨.info, generateOrigin, "Wrote " ++ path⟩]

def validNotes (path : String) (version : Option ApiVersion) : List Record :=
  ⟨.info, validateOrigin, path ++ " is valid"⟩ ::
    version.toList.map fun v =>
      ⟨.info, validateOrigin,
        "Requires build engine API version " ++ v.text ++ " or newer"⟩

end Command

end ImageRecipe
