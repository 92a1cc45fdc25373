import ImageRecipe.Proofs.BaseDir
import ImageRecipe.Proofs.Config.Checks
import ImageRecipe.Proofs.Config.Reading
import ImageRecipe.Proofs.Config.Recipe
import ImageRecipe.Proofs.Dockerfile.Refusal
import ImageRecipe.Proofs.Recipe.WellFormed

namespace ImageRecipe

namespace Recipe

theorem render_of_arguments {r : Recipe} (checked : ∀ a ∈ r.arguments, a.check = .ok ()) :
    match r.render with
    | .ok _ => ∀ entry ∈ r.ports, Port.WellFormed entry
    | .error fault =>
      ∃ entry, fault = .invalidPort entry ∧ Port.FirstMalformed r.ports entry := by
  cases outcome : r.render with
  | ok text =>
    obtain ⟨_, passed⟩ := exists_check_iff.mp (exists_render_iff.mp ⟨text, outcome⟩)
    exact fun entry there => Port.wellFormed_iff.mpr (passed entry there)
  | error fault =>
    rcases check_eq_error_iff.mp (render_eq_error_iff.mp outcome) with
      ⟨_, a, has, why, refused⟩ | ⟨_, entry, blamed, first⟩
    · rw [checked a (mem_arguments_iff.mpr has)] at refused
      cases refused
    · exact ⟨entry, blamed, first.firstMalformed⟩

end Recipe

namespace Config

variable {c : Config} {r : Recipe} {fault : Fault}

theorem Checked.arguments (checked : c.Checked) : ∀ a ∈ c.recipe.arguments, a.check = .ok () :=
  checked_iff.mp checked

theorem Checked.validate (checked : c.Checked) :
    match c.validate with
    | .ok version => version = c.apiVersion
    | .error fault => ∃ name, fault = .duplicateAssemblyName name := by
  have arguments : c.arguments.forM Argument.check = .ok () := by
    rw [forM_eq_ok_iff]
    intro a member
    exact checked.arguments a (List.mem_append_left _ member)
  rw [validate_eq, arguments]
  cases firstRepeat? [] c.names with
  | some name => exact ⟨name, rfl⟩
  | none => rfl

theorem checkTarget_eq_ok_iff :
    c.checkTarget = .ok () ↔ ∀ a, c.assemblies.head? = some a → BaseDir.Rooted a.target := by
  unfold checkTarget
  cases c.assemblies.head? with
  | none => simp
  | some a => simp [BaseDir.check_eq_ok_iff]

theorem checkTarget_eq_error_iff :
    c.checkTarget = .error fault ↔ ∃ a, c.assemblies.head? = some a ∧
      ¬ BaseDir.Rooted a.target ∧ fault = .malformedBaseDir a.target := by
  unfold checkTarget
  cases c.assemblies.head? with
  | none => simp
  | some a => simp [BaseDir.check_eq_error_iff]

theorem checkEnv_eq_ok_iff :
    c.checkEnv = .ok () ↔ ∀ entry ∈ plainEntries c.env, entry.2 ≠ "" := by
  rw [checkEnv, ← Recipe.emptyKey?_eq_none_iff]
  cases Recipe.emptyKey? (plainEntries c.env) <;> simp

theorem checkEnv_eq_error_iff :
    c.checkEnv = .error fault ↔
      ∃ key, Recipe.emptyKey? (plainEntries c.env) = some key ∧ fault = .emptyEnvValue key := by
  unfold checkEnv
  cases Recipe.emptyKey? (plainEntries c.env) with
  | none => simp
  | some key => simp [eq_comm]

/-- The checks come one after the other; the first that fails decides. -/
theorem toRecipe_eq_error_iff :
    c.toRecipe = .error fault ↔ c.validate = .error fault ∨
      (∃ version, c.validate = .ok version) ∧
        (c.checkTarget = .error fault ∨ c.checkTarget = .ok () ∧ c.checkEnv = .error fault) := by
  rw [toRecipe_eq]
  cases c.validate with
  | error fault => simp [bind, Except.bind]
  | ok version =>
    cases c.checkTarget with
    | error fault => simp [bind, Except.bind]
    | ok _ => cases c.checkEnv <;> simp [bind, Except.bind, pure, Except.pure]

/-- A configuration that was read has well-formed arguments. Its checks fail for a name that
assemblies share, and for nothing else. Its recipe fails for that, for a target or for an empty
variable; and the Dockerfile of its recipe for the first entry that is no port. -/
theorem faults_after_loading (c : Config) (loaded : c.Loaded) :
    c.Checked ∧
    (∀ fault, c.validate = .error fault → ∃ name, fault = .duplicateAssemblyName name) ∧
    (∀ fault, c.toRecipe = .error fault → (∃ name, fault = .duplicateAssemblyName name) ∨
      (∃ dir, fault = .malformedBaseDir dir) ∨ ∃ key, fault = .emptyEnvValue key) ∧
    ∀ r, c.toRecipe = .ok r →
      match r.render with
      | .ok _ => ∀ entry ∈ trimmedEntries c.ports, Port.WellFormed entry
      | .error fault => ∃ entry, fault = .invalidPort entry ∧
          Port.FirstMalformed (trimmedEntries c.ports) entry := by
  have checked := loaded.checked
  have valid (fault : Fault) (failed : c.validate = .error fault) :
      ∃ name, fault = .duplicateAssemblyName name := by
    have outcome := checked.validate
    rwa [failed] at outcome
  refine ⟨checked, valid, ?_, ?_⟩
  · intro fault failed
    rcases toRecipe_eq_error_iff.mp failed with invalid | ⟨_, target | ⟨_, env⟩⟩
    · exact .inl (valid fault invalid)
    · obtain ⟨a, _, _, same⟩ := checkTarget_eq_error_iff.mp target
      exact .inr (.inl ⟨a.target, same⟩)
    · obtain ⟨key, _, same⟩ := checkEnv_eq_error_iff.mp env
      exact .inr (.inr ⟨key, same⟩)
  · intro r accepted
    rw [recipe_of_toRecipe accepted]
    exact Recipe.render_of_arguments checked.arguments

def mixedText : String :=
  "cmd:\n  exec: [a]\nhealthcheck:\n  cmd: b\nports: [' 80 ', ' ', 5/UDP, x, y]\n"

def mixed : Config :=
  { cmd := some (.exec ["a"])
    healthCheck := some (.probe ⟨none, none, none, none, .shell "b"⟩)
    ports := [" 80 ", " ", "5/UDP", "x", "y"] }

theorem loaded_mixed : mixed.Loaded := by
  have read : (readText reads mixedText).toOption = some mixed := by decide +kernel
  exact loaded_of_readText (toOption_eq_some_iff.mp read)

theorem faults_after_loading_mixed :
    mixed.Loaded ∧ mixed.toRecipe = .ok mixed.recipe ∧
      ∃ entry, mixed.recipe.render = .error (.invalidPort entry) ∧
        Port.FirstMalformed ["80", "5/UDP", "x", "y"] entry := by
  have rendered := (faults_after_loading mixed loaded_mixed).2.2.2 mixed.recipe rfl
  have refused : mixed.recipe.render = .error (.invalidPort "x") := rfl
  have entries : trimmedEntries mixed.ports = ["80", "5/UDP", "x", "y"] := rfl
  rw [refused, entries] at rendered
  obtain ⟨entry, same, first⟩ := rendered
  exact ⟨loaded_mixed, rfl, entry, by rw [refused, same], first⟩

/-- Of the assemblies it is the first alone whose target must be rooted. -/
theorem accepted_iff_first_target (c : Config) :
    (∃ r, c.toRecipe = .ok r) ↔
      (∃ version, c.validate = .ok version) ∧
        (∀ a, c.assemblies.head? = some a → BaseDir.Rooted a.target) ∧
        ∀ entry ∈ plainEntries c.env, entry.2 ≠ "" := by
  simp only [toRecipe_eq_ok_recipe_iff, checkTarget_eq_ok_iff, checkEnv_eq_ok_iff]
  constructor
  · rintro ⟨_, valid, target, env, _⟩
    exact ⟨valid, target, env⟩
  · rintro ⟨valid, target, env⟩
    exact ⟨c.recipe, valid, target, env, rfl⟩

def astray : Config :=
  { assemblies := [{ name := "app" }, { name := "lib", targetDir := some "opt/lib" }] }

theorem astray_accepted :
    ∃ r instructions, astray.toRecipe = .ok r ∧ r.instructions = .ok instructions ∧
      ⟨.copy, ["lib", "opt/lib/"]⟩ ∈ instructions ∧
      ∃ a ∈ astray.assemblies, ¬ BaseDir.Rooted a.target := by
  refine ⟨_, _, rfl, rfl, by decide, ⟨"lib", some "opt/lib", none, none⟩, by decide, ?_⟩
  rw [← BaseDir.isValid_iff]
  decide

end Config

end ImageRecipe
