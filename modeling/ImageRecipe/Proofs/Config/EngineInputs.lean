import ImageRecipe.Dockerfile.Rendering
import ImageRecipe.Proofs.Config.Checks
import ImageRecipe.Proofs.Config.Recipe

namespace ImageRecipe.Config

def referenceName (c : Config) : Option String :=
  c.baseReference.bind (·.get? "name")

def withoutEngineInputs (c : Config) : Config :=
  { c with baseReference := none, buildArgs := none, cacheFrom := [] }

/-- Two configurations that differ only in what is meant for the build engine and in what does not
count of their references. -/
structure SameImage (c d : Config) : Prop where
  rest : c.withoutEngineInputs = d.withoutEngineInputs
  name : c.base = none → c.referenceName = d.referenceName

variable {c d : Config}

theorem SameImage.base (same : SameImage c d) : c.base = d.base := by
  have base := congrArg Config.base same.rest
  exact base

theorem SameImage.baseImage (same : SameImage c d) : c.baseImage = d.baseImage := by
  have split (c : Config) : c.baseImage = c.base.or c.referenceName := rfl
  rw [split, split, ← same.base]
  cases named : c.base with
  | none => rw [same.name named]
  | some image => rfl

theorem toRecipe_withoutEngineInputs (c : Config) :
    c.toRecipe = c.withoutEngineInputs.toRecipe.map ({ · with baseImage := c.baseImage }) := by
  have names : c.withoutEngineInputs.names = c.names := rfl
  have arguments : c.withoutEngineInputs.arguments = c.arguments := rfl
  have target : c.withoutEngineInputs.checkTarget = c.checkTarget := rfl
  have env : c.withoutEngineInputs.checkEnv = c.checkEnv := rfl
  have recipe : c.recipe = { c.withoutEngineInputs.recipe with baseImage := c.baseImage } := rfl
  rw [toRecipe_eq, toRecipe_eq, validate_bind, validate_bind, names, arguments, target, env, recipe]
  cases firstRepeat? [] c.names with
  | some name => rfl
  | none =>
    cases c.arguments.forM Argument.check with
    | error fault => rfl
    | ok _ =>
      cases c.checkTarget with
      | error fault => rfl
      | ok _ => cases c.checkEnv <;> rfl

/-- Configurations that differ only in what is meant for the build engine, and in what does not
count of their references, have the same recipe or the same fault, and so the same Dockerfile. -/
theorem engineInputs_unused (c d : Config) (same : SameImage c d) :
    c.toRecipe = d.toRecipe ∧ (c.toRecipe >>= Recipe.render) = (d.toRecipe >>= Recipe.render) := by
  have recipe : c.toRecipe = d.toRecipe := by
    rw [toRecipe_withoutEngineInputs c, toRecipe_withoutEngineInputs d, same.rest, same.baseImage]
  exact ⟨recipe, by rw [recipe]⟩

def brief : Config :=
  { baseReference := some (.ofList [("name", "fedora:40")])
    runs := ["make"] }

def cached : Config :=
  { brief with
    baseReference := some (.ofList [("type", "image"), ("name", "fedora:40")])
    buildArgs := some (.ofList [("VERSION", "1")])
    cacheFrom := ["fedora:39"] }

theorem engineInputs_unused_cached :
    SameImage cached brief ∧ cached.toRecipe = brief.toRecipe ∧
      (cached.toRecipe >>= Recipe.render) = .ok "FROM fedora:40\nRUN make\n" := by
  have same : SameImage cached brief := ⟨rfl, fun _ => rfl⟩
  have unused := engineInputs_unused cached brief same
  exact ⟨same, unused.1, unused.2.trans rfl⟩

end ImageRecipe.Config
