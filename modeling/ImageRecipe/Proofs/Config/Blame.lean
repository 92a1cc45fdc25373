import ImageRecipe.Proofs.Config.Faults

namespace ImageRecipe

def Vacant (value : Option String) : Prop := value = none ∨ value = some ""

/-- The first key whose value is vacant. -/
def FirstVacant (env : OrderedMap (Option String)) (key : String) : Prop :=
  ∃ before value after, env.toList = before ++ (key, value) :: after ∧ Vacant value ∧
    ∀ entry ∈ before, ¬ Vacant entry.2

theorem vacant_iff {value : Option String} : Vacant value ↔ value.getD "" = "" := by
  cases value <;> simp [Vacant]

theorem emptyKey?_plainEntries {env : OrderedMap (Option String)} {key : String} :
    Recipe.emptyKey? (plainEntries env) = some key ↔ FirstVacant env key := by
  simp only [Recipe.emptyKey?, plainEntries, List.find?_map, Option.map_map, Option.map_eq_some_iff,
    List.find?_eq_some_iff_append]
  constructor
  · rintro ⟨⟨_, value⟩, ⟨empty, before, after, split, others⟩, rfl⟩
    refine ⟨before, value, after, split, ?_, fun entry member => ?_⟩
    · simpa [vacant_iff] using empty
    · simpa [vacant_iff] using others entry member
  · rintro ⟨before, value, after, split, vacant, others⟩
    refine ⟨(key, value), ⟨?_, before, after, split, fun entry member => ?_⟩, rfl⟩
    · simpa [vacant_iff] using vacant
    · simpa [vacant_iff] using others entry member

namespace Config

def Valid (c : Config) : Prop := ∃ version, c.validate = .ok version

def TargetAccepted (c : Config) : Prop :=
  ∀ a, c.assemblies.head? = some a → BaseDir.Rooted a.target

def outcome (c : Config) : Except Fault Unit := c.toRecipe.map fun _ => ()

/-- Configurations with the same assemblies, arguments and environment. -/
structure AlikeInChecks (c d : Config) : Prop where
  assemblies : c.assemblies = d.assemblies
  cmd : c.cmd = d.cmd
  entrypoint : c.entrypoint = d.entrypoint
  shell : c.shell = d.shell
  env : c.env = d.env

variable {c d : Config} {fault : Fault}

theorem outcome_eq (c : Config) :
    c.outcome = c.validate >>= fun _ => c.checkTarget >>= fun _ => c.checkEnv := by
  rw [outcome, toRecipe_eq]
  cases c.validate with
  | error fault => rfl
  | ok version =>
    cases c.checkTarget with
    | error fault => rfl
    | ok _ => cases c.checkEnv <;> rfl

theorem AlikeInChecks.outcome_eq (alike : AlikeInChecks c d) : c.outcome = d.outcome := by
  have names : c.names = d.names := by rw [names, names, alike.assemblies]
  have arguments : c.arguments = d.arguments := by
    rw [arguments, arguments, alike.cmd, alike.entrypoint, alike.shell]
  have target : c.checkTarget = d.checkTarget := by
    rw [checkTarget, checkTarget, alike.assemblies]
  have env : c.checkEnv = d.checkEnv := by rw [checkEnv, checkEnv, alike.env]
  rw [Config.outcome_eq, Config.outcome_eq, validate_bind, validate_bind, names, arguments, target,
    env]

theorem malformedBaseDir_iff {dir : String} :
    c.toRecipe = .error (.malformedBaseDir dir) ↔
      c.Valid ∧ ∃ a, c.assemblies.head? = some a ∧ a.target = dir ∧ ¬ BaseDir.Rooted dir := by
  rw [toRecipe_eq_error_iff]
  constructor
  · rintro (invalid | ⟨valid, target | ⟨_, env⟩⟩)
    · rcases fault_of_validate invalid with ⟨_, impossible⟩ | impossible <;> cases impossible
    · obtain ⟨a, first, relative, same⟩ := checkTarget_eq_error_iff.mp target
      obtain rfl := Fault.malformedBaseDir.inj same
      exact ⟨valid, a, first, rfl, relative⟩
    · obtain ⟨_, _, impossible⟩ := checkEnv_eq_error_iff.mp env
      cases impossible
  · rintro ⟨valid, a, first, rfl, relative⟩
    exact .inr ⟨valid, .inl (checkTarget_eq_error_iff.mpr ⟨a, first, relative, rfl⟩)⟩

theorem emptyEnvValue_iff {key : String} :
    c.toRecipe = .error (.emptyEnvValue key) ↔
      c.Valid ∧ c.TargetAccepted ∧ FirstVacant c.env key := by
  rw [toRecipe_eq_error_iff]
  constructor
  · rintro (invalid | ⟨valid, target | ⟨accepted, env⟩⟩)
    · rcases fault_of_validate invalid with ⟨_, impossible⟩ | impossible <;> cases impossible
    · obtain ⟨_, _, _, impossible⟩ := checkTarget_eq_error_iff.mp target
      cases impossible
    · obtain ⟨found, empty, same⟩ := checkEnv_eq_error_iff.mp env
      obtain rfl := Fault.emptyEnvValue.inj same
      exact ⟨valid, checkTarget_eq_ok_iff.mp accepted, emptyKey?_plainEntries.mp empty⟩
  · rintro ⟨valid, accepted, first⟩
    have env := checkEnv_eq_error_iff.mpr ⟨key, emptyKey?_plainEntries.mpr first, rfl⟩
    exact .inr ⟨valid, .inr ⟨checkTarget_eq_ok_iff.mpr accepted, env⟩⟩

theorem exists_fault_of_vacant {entry : String × Option String} (member : entry ∈ c.env.toList)
    (vacant : Vacant entry.2) : ∃ fault, c.toRecipe = .error fault := by
  rw [exists_error_iff]
  rintro ⟨r, accepted⟩
  have filled := checkEnv_eq_ok_iff.mp (toRecipe_eq_ok_recipe_iff.mp accepted).2.2.1
  exact filled _ (List.mem_map_of_mem member) (vacant_iff.mp vacant)

/-- What the checks of a configuration by itself find is blamed when its recipe is made. Where they
pass, the target of the first assembly is blamed if it is no base directory; where it is one, the
first variable without a value is blamed. No variable without a value is accepted, nothing else is
blamed, and configurations with the same assemblies, arguments and environment fare alike. -/
theorem toRecipe_blame (c : Config) :
    (∀ fault, c.validate = .error fault → c.toRecipe = .error fault) ∧
    (∀ dir, c.toRecipe = .error (.malformedBaseDir dir) ↔
      c.Valid ∧ ∃ a, c.assemblies.head? = some a ∧ a.target = dir ∧ ¬ BaseDir.Rooted dir) ∧
    (∀ key, c.toRecipe = .error (.emptyEnvValue key) ↔
      c.Valid ∧ c.TargetAccepted ∧ FirstVacant c.env key) ∧
    (∀ entry ∈ c.env.toList, Vacant entry.2 → ∃ fault, c.toRecipe = .error fault) ∧
    (∀ fault, c.toRecipe = .error fault → c.validate = .error fault ∨
      (∃ dir, fault = .malformedBaseDir dir) ∨ ∃ key, fault = .emptyEnvValue key) ∧
    ∀ d, AlikeInChecks c d → c.outcome = d.outcome := by
  refine ⟨fun fault invalid => ?_, fun _ => malformedBaseDir_iff, fun _ => emptyEnvValue_iff,
    fun _ => exists_fault_of_vacant, fun fault failed => ?_, fun _ => AlikeInChecks.outcome_eq⟩
  · exact toRecipe_eq_error_iff.mpr (.inl invalid)
  · rcases toRecipe_eq_error_iff.mp failed with invalid | ⟨_, target | ⟨_, env⟩⟩
    · exact .inl invalid
    · obtain ⟨a, _, _, blamed⟩ := checkTarget_eq_error_iff.mp target
      exact .inr (.inl ⟨a.target, blamed⟩)
    · obtain ⟨key, _, blamed⟩ := checkEnv_eq_error_iff.mp env
      exact .inr (.inr ⟨key, blamed⟩)

def spoilt : Config :=
  { ports := ["x"]
    env := .ofList [("A", some "1"), ("B", none), ("C", some "")]
    assemblies := [{ targetDir := some "opt" }] }

theorem toRecipe_blame_spoilt :
    { spoilt with assemblies := [{}, {}] }.toRecipe = .error (.duplicateAssemblyName "maven") ∧
    spoilt.toRecipe = .error (.malformedBaseDir "opt") ∧
    { spoilt with assemblies := [{}] }.toRecipe = .error (.emptyEnvValue "B") ∧
    { spoilt with ports := [], healthCheck := some .disabled }.outcome =
      .error (.malformedBaseDir "opt") := by
  obtain ⟨invalid, _⟩ := toRecipe_blame { spoilt with assemblies := [{}, {}] }
  obtain ⟨_, target, _, _, _, alike⟩ := toRecipe_blame spoilt
  obtain ⟨_, _, env, _⟩ := toRecipe_blame { spoilt with assemblies := [{}] }
  refine ⟨invalid _ rfl, (target "opt").mpr ⟨⟨none, rfl⟩, _, rfl, rfl, ?_⟩, (env "B").mpr ?_, ?_⟩
  · rw [← BaseDir.isValid_iff]
    decide
  · refine ⟨⟨none, rfl⟩, ?_, [("A", some "1")], none, [("C", some "")], rfl, .inl rfl, ?_⟩
    · rintro _ ⟨⟩
      exact (BaseDir.isValid_iff _).mp (by decide)
    · simp [Vacant]
  · exact (alike _ ⟨rfl, rfl, rfl, rfl, rfl⟩).symm.trans rfl

end Config

end ImageRecipe
