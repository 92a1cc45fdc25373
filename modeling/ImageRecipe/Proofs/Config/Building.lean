import ImageRecipe.Proofs.Config.Padding
import ImageRecipe.Proofs.Recipe.WellFormed

namespace ImageRecipe

namespace Recipe

/-- No entry is empty or has a blank end. -/
structure Tidy (r : Recipe) : Prop where
  ports : ∀ s ∈ r.ports, s ≠ "" ∧ Text.Trimmed s
  volumes : ∀ s ∈ r.volumes, s ≠ "" ∧ Text.Trimmed s
  runs : ∀ s ∈ r.runs, s ≠ "" ∧ Text.Trimmed s

end Recipe

namespace Config

open Recipe (Step)

variable {c : Config} {r : Recipe}

theorem toRecipe_eq_ok_iff :
    c.toRecipe = .ok r ↔
      ∃ version, c.validate = .ok version ∧ Recipe.start.applyAll c.steps = .ok r :=
  bind_eq_ok_iff

/-- The entries of a configuration as they stand in its recipe. -/
structure Entered (c : Config) (r : Recipe) : Prop where
  ports : r.ports = trimmedEntries c.ports
  volumes : r.volumes = trimmedEntries c.volumes
  runs : r.runs = (c.runs.map Text.trim).filter (!Text.isBlankText ·)
  env : r.env = .ofList (plainEntries c.env)
  labels : r.labels = .ofList (plainEntries c.labels)

theorem toRecipe_entered (accepted : c.toRecipe = .ok r) : c.Entered r := by
  rw [recipe_of_toRecipe accepted]
  exact ⟨rfl, rfl, rfl, rfl, rfl⟩

theorem toRecipe_tidy (accepted : c.toRecipe = .ok r) : r.Tidy := by
  have cleans := cleans_of_toRecipe accepted
  exact ⟨cleans.ports.tidy, cleans.volumes.tidy, cleans.runs.tidy⟩

theorem toRecipe_wellFormed (accepted : c.toRecipe = .ok r) : r.WellFormed := by
  obtain ⟨_, _, built⟩ := toRecipe_eq_ok_iff.mp accepted
  rw [← Recipe.run_eq_of_applyAll built]
  exact Recipe.run_wellFormed Recipe.start_wellFormed c.steps

end Config

/-- Every run of steps, with those that fail skipped, leaves a recipe that is well formed. So does
every configuration that is accepted, and what it enters is tidy. -/
theorem Recipe.built_wellFormed :
    (∀ steps : List Step, (start.run steps).WellFormed) ∧
      ∀ (c : Config) (r : Recipe), c.toRecipe = .ok r → r.WellFormed ∧ r.Tidy :=
  ⟨run_wellFormed start_wellFormed,
    fun _ _ accepted => ⟨Config.toRecipe_wellFormed accepted, Config.toRecipe_tidy accepted⟩⟩

def Config.untidy : Config :=
  { ports := [" 80", "\t"]
    volumes := ["", "/data\n"]
    runs := [" ", " make \n", "ls"]
    env := .ofList [("A", some " ")]
    assemblies := [{ targetDir := some "$HOME" }] }

theorem Recipe.built_wellFormed_untidy :
    (start.run [.env [("A", "1")], .env [("A", "")], .copy "a" "//b" {}]).WellFormed ∧
      ∃ r, Config.untidy.toRecipe = .ok r ∧ r.ports = ["80"] ∧ r.volumes = ["/data"] ∧
        r.runs = ["make", "ls"] ∧ r.WellFormed ∧ r.Tidy :=
  ⟨built_wellFormed.1 _, _, rfl, rfl, rfl, rfl, built_wellFormed.2 Config.untidy _ rfl⟩

end ImageRecipe
