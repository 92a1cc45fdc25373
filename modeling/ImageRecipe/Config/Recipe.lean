import ImageRecipe.Config.Checks
import ImageRecipe.Recipe.Step

/-!
The recipe that a configuration describes, as the steps that build it. The first assembly decides
the base directory, the user of the copies and that the base directory is not exported as such.
-/
namespace ImageRecipe

/-- The entries without blank ends; those with nothing left are dropped. -/
def trimmedEntries (entries : List String) : List String :=
  (entries.map Text.trim).filter (· ≠ "")

def CopyEntry.step (e : CopyEntry) : Recipe.Step :=
  .copy e.source e.destination ⟨e.target, e.user, e.exported⟩

def Assembly.step (a : Assembly) : Recipe.Step :=
  .copy a.name "" ⟨some a.target, a.user, a.exportTargetDir⟩

def Assembly.leadingSteps (a : Assembly) : List Recipe.Step :=
  [.baseDir a.target, .exportBaseDir false] ++ (a.user.map Recipe.Step.assemblyUser).toList

def plainEntries (m : OrderedMap (Option String)) : List (String × String) :=
  m.toList.map fun entry => (entry.1, entry.2.getD "")

namespace Config

def settings (c : Config) : List Recipe.Step :=
  (c.baseImage.map Recipe.Step.baseImage).toList ++
    (c.maintainer.map Recipe.Step.maintainer).toList ++
    (c.workdir.map Recipe.Step.workdir).toList ++
    (c.user.map Recipe.Step.user).toList ++
    (c.shell.map Recipe.Step.shell).toList ++
    (c.cmd.map Recipe.Step.cmd).toList ++
    (c.entrypoint.map Recipe.Step.entrypoint).toList ++
    (c.healthCheck.map Recipe.Step.healthCheck).toList ++
    (if c.optimise then [.optimise] else [])

def contents (c : Config) : List Recipe.Step :=
  c.assemblies.map Assembly.step ++ c.copies.map CopyEntry.step

def entries (c : Config) : List Recipe.Step :=
  [.env (plainEntries c.env), .labels (plainEntries c.labels), .expose (trimmedEntries c.ports),
    .volumes (trimmedEntries c.volumes), .run (c.runs.map Text.trim)]

def steps (c : Config) : List Recipe.Step :=
  c.settings ++ (c.assemblies.head?.map Assembly.leadingSteps).getD [] ++ c.contents ++ c.entries

def toRecipe (c : Config) : Except Fault Recipe := do
  let _ ← c.validate
  Recipe.start.applyAll c.steps

end Config

end ImageRecipe
