import ImageRecipe.Dockerfile.KeyValue
import ImageRecipe.Dockerfile.Probing
import ImageRecipe.Dockerfile.Volumes
import ImageRecipe.Port

/-!
The Dockerfile of a recipe. Arguments and ports are checked before anything is written; what
passes becomes instructions in one fixed order, each present only if the recipe has something to
put into it.
-/
namespace ImageRecipe.Recipe

def dockerfileName : String := "Dockerfile"

def optional (keyword : Keyword) (arg : Option String) : List Instruction :=
  arg.toList.map fun text => ⟨keyword, [text]⟩

def together (keyword : Keyword) (args : List String) : List Instruction :=
  if args.isEmpty then [] else [⟨keyword, args⟩]

/-- The commands that get a layer of their own. Optimised, all commands share one. -/
def layers (r : Recipe) : List String :=
  if r.optimise && !r.runs.isEmpty then [" && ".intercalate r.runs] else r.runs

/-- The first fault of the arguments, whatever the ports are; else the ports in small letters, or
the first fault among them. -/
def check (r : Recipe) : Except Fault (List String) := do
  r.arguments.forM Argument.check
  r.ports.mapM Port.normalize

def instructionsWith (r : Recipe) (ports : List String) : List Instruction :=
  [⟨.image, [r.image]⟩] ++
    optional .maintainer r.maintainer ++
    together .env (KeyValue.tokens r.env.toList) ++
    together .label (KeyValue.tokens r.labels.toList) ++
    together .expose ports ++
    r.copies.flatMap r.copyInstructions ++
    optional .workdir r.workdir ++
    optional .shell (r.shell.map Argument.encodeTokens) ++
    r.layers.map (fun command => ⟨.run, [command]⟩) ++
    r.volumeInstructions ++
    (r.healthCheck.map HealthCheck.instruction).toList ++
    optional .cmd (r.cmd.map Argument.encode) ++
    optional .entrypoint (r.entrypoint.map Argument.encode) ++
    optional .user r.user

def instructions (r : Recipe) : Except Fault (List Instruction) :=
  r.check.map r.instructionsWith

def render (r : Recipe) : Except Fault String :=
  r.instructions.map dockerfileText

end ImageRecipe.Recipe
