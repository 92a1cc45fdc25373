import ImageRecipe.Config.Recipe
import ImageRecipe.Proofs.Outcome
import ImageRecipe.Proofs.Recipe.Step

/-!
The recipe of a configuration, field by field. Building it comes down to three checks: of the
configuration by itself, of the target of the first assembly, and of the environment.
-/
namespace ImageRecipe

namespace Recipe

variable {α : Type}

theorem applyAll_append (r : Recipe) (xs ys : List Step) :
    r.applyAll (xs ++ ys) = r.applyAll xs >>= fun next => next.applyAll ys := by
  induction xs generalizing r with
  | nil => rfl
  | cons step xs ih =>
    rw [List.cons_append, applyAll, applyAll]
    cases r.apply step with
    | error fault => rfl
    | ok next => exact ih next

theorem applyAll_copies {step : α → Step} (rule : α → CopyRule)
    (copies : ∀ (r : Recipe) (a : α),
      r.apply (step a) = .ok { r with copies := r.copies ++ [rule a] })
    (r : Recipe) (items : List α) :
    r.applyAll (items.map step) = .ok { r with copies := r.copies ++ items.map rule } := by
  induction items generalizing r with
  | nil => rw [List.map_nil, List.map_nil, List.append_nil]; rfl
  | cons a items ih =>
    rw [List.map_cons, applyAll, copies]
    simp only [Except.bind]
    rw [ih, List.map_cons, List.append_assoc, List.singleton_append]

end Recipe

def Assembly.rule (a : Assembly) : CopyRule :=
  .make a.name "" ⟨some a.target, a.user, a.exportTargetDir⟩

def CopyEntry.rule (e : CopyEntry) : CopyRule :=
  .make e.source e.destination ⟨e.target, e.user, e.exported⟩

namespace Config

open Recipe (Step)

variable {c : Config} {r : Recipe}

def recipe (c : Config) : Recipe where
  baseImage := c.baseImage
  maintainer := c.maintainer
  workdir := c.workdir
  baseDir := (c.assemblies.head?.map Assembly.target).getD Recipe.defaultBaseDir
  entrypoint := c.entrypoint
  cmd := c.cmd
  exportBaseDir := c.assemblies.head?.map fun _ => false
  assemblyUser := c.assemblies.head?.bind Assembly.user
  user := c.user
  healthCheck := c.healthCheck
  copies := c.assemblies.map Assembly.rule ++ c.copies.map CopyEntry.rule
  ports := trimmedEntries c.ports
  shell := c.shell
  runs := (c.runs.map Text.trim).filter (!Text.isBlankText ·)
  env := .ofList (plainEntries c.env)
  labels := .ofList (plainEntries c.labels)
  volumes := trimmedEntries c.volumes
  optimise := c.optimise

def checkTarget (c : Config) : Except Fault Unit :=
  match c.assemblies.head? with
  | some a => BaseDir.check a.target
  | none => .ok ()

def checkEnv (c : Config) : Except Fault Unit :=
  match Recipe.emptyKey? (plainEntries c.env) with
  | some key => .error (.emptyEnvValue key)
  | none => .ok ()

def settle (c : Config) (r : Recipe) : Recipe :=
  { r with
    baseImage := c.baseImage.or r.baseImage
    maintainer := c.maintainer.or r.maintainer
    workdir := c.workdir.or r.workdir
    user := c.user.or r.user
    shell := c.shell.or r.shell
    cmd := c.cmd.or r.cmd
    entrypoint := c.entrypoint.or r.entrypoint
    healthCheck := c.healthCheck.or r.healthCheck
    optimise := c.optimise || r.optimise }

theorem applyAll_settings (c : Config) (r : Recipe) : r.applyAll c.settings = .ok (c.settle r) := by
  have image (r : Recipe) : r.applyAll (c.baseImage.map Step.baseImage).toList =
      .ok { r with baseImage := c.baseImage.or r.baseImage } := by
    cases c.baseImage <;> rfl
  have maintainer (r : Recipe) : r.applyAll (c.maintainer.map Step.maintainer).toList =
      .ok { r with maintainer := c.maintainer.or r.maintainer } := by
    cases c.maintainer <;> rfl
  have workdir (r : Recipe) : r.applyAll (c.workdir.map Step.workdir).toList =
      .ok { r with workdir := c.workdir.or r.workdir } := by
    cases c.workdir <;> rfl
  have user (r : Recipe) : r.applyAll (c.user.map Step.user).toList =
      .ok { r with user := c.user.or r.user } := by
    cases c.user <;> rfl
  have shell (r : Recipe) : r.applyAll (c.shell.map Step.shell).toList =
      .ok { r with shell := c.shell.or r.shell } := by
    cases c.shell <;> rfl
  have cmd (r : Recipe) : r.applyAll (c.cmd.map Step.cmd).toList =
      .ok { r with cmd := c.cmd.or r.cmd } := by
    cases c.cmd <;> rfl
  have entrypoint (r : Recipe) : r.applyAll (c.entrypoint.map Step.entrypoint).toList =
      .ok { r with entrypoint := c.entrypoint.or r.entrypoint } := by
    cases c.entrypoint <;> rfl
  have healthCheck (r : Recipe) : r.applyAll (c.healthCheck.map Step.healthCheck).toList =
      .ok { r with healthCheck := c.healthCheck.or r.healthCheck } := by
    cases c.healthCheck <;> rfl
  have optimise (r : Recipe) : r.applyAll (if c.optimise then [.optimise] else []) =
      .ok { r with optimise := c.optimise || r.optimise } := by
    cases c.optimise <;> rfl
  simp only [settings, Recipe.applyAll_append, image, maintainer, workdir, user, shell, cmd,
    entrypoint, healthCheck, optimise, bind, Except.bind, settle]

def lead (c : Config) (r : Recipe) : Recipe :=
  { r with
    baseDir := (c.assemblies.head?.map Assembly.target).getD r.baseDir
    exportBaseDir := (c.assemblies.head?.map fun _ => false).or r.exportBaseDir
    assemblyUser := (c.assemblies.head?.bind Assembly.user).or r.assemblyUser }

theorem applyAll_leading (c : Config) (r : Recipe) :
    r.applyAll ((c.assemblies.head?.map Assembly.leadingSteps).getD []) =
      c.checkTarget.map fun _ => c.lead r := by
  unfold checkTarget lead
  cases c.assemblies.head? with
  | none => rfl
  | some a =>
    have steps : a.leadingSteps = .baseDir a.target :: .exportBaseDir false ::
      (a.user.map Step.assemblyUser).toList := rfl
    simp only [Option.map_some, Option.getD_some, steps, Recipe.applyAll, Recipe.apply]
    cases BaseDir.check a.target with
    | error fault => rfl
    | ok _ =>
      cases owner : a.user <;>
        simp [owner, Except.map, Except.bind, Recipe.applyAll, Recipe.apply]

theorem applyAll_contents (c : Config) (r : Recipe) :
    r.applyAll c.contents = .ok { r with
      copies := r.copies ++ (c.assemblies.map Assembly.rule ++ c.copies.map CopyEntry.rule) } := by
  rw [contents, Recipe.applyAll_append, Recipe.applyAll_copies Assembly.rule fun _ _ => rfl]
  simp only [bind, Except.bind]
  rw [Recipe.applyAll_copies CopyEntry.rule fun _ _ => rfl, List.append_assoc]

theorem keys_plainEntries (m : OrderedMap (Option String)) :
    (plainEntries m).map Prod.fst = m.keys := by
  simp [plainEntries, OrderedMap.keys]

theorem distinct_plainEntries (m : OrderedMap (Option String)) :
    ((plainEntries m).map Prod.fst).Nodup := by
  rw [keys_plainEntries]
  exact m.distinct

theorem mergeEnv_plainEntries (c : Config) :
    Recipe.mergeEnv .empty (plainEntries c.env) =
      c.checkEnv.map fun _ => .ofList (plainEntries c.env) := by
  have merged := OrderedMap.toList_ofList (distinct_plainEntries c.env)
  rw [OrderedMap.ofList] at merged
  rw [Recipe.mergeEnv, merged, checkEnv]
  cases Recipe.emptyKey? (plainEntries c.env) <;> rfl

theorem applyAll_entries (c : Config) {r : Recipe} (fresh : r.env = .empty) :
    r.applyAll c.entries = c.checkEnv.map fun _ =>
      { r with
        env := .ofList (plainEntries c.env)
        labels := r.labels.merge (plainEntries c.labels)
        ports := r.ports ++ trimmedEntries c.ports
        volumes := r.volumes ++ trimmedEntries c.volumes
        runs := r.runs ++ (c.runs.map Text.trim).filter (!Text.isBlankText ·) } := by
  rw [entries, Recipe.applyAll, Recipe.apply, fresh, mergeEnv_plainEntries]
  cases c.checkEnv <;> rfl

theorem applyAll_steps (c : Config) :
    Recipe.start.applyAll c.steps = (do
      c.checkTarget
      c.checkEnv
      return c.recipe) := by
  rw [steps, Recipe.applyAll_append, Recipe.applyAll_append, Recipe.applyAll_append,
    applyAll_settings]
  simp only [bind, Except.bind]
  rw [applyAll_leading]
  cases c.checkTarget with
  | error fault => rfl
  | ok _ =>
    simp only [Except.map]
    rw [applyAll_contents]
    simp only
    rw [applyAll_entries c rfl]
    cases c.checkEnv with
    | error fault => rfl
    | ok _ =>
      simp [Except.map, pure, Except.pure, recipe, lead, settle, Recipe.start, OrderedMap.ofList]

theorem toRecipe_eq (c : Config) :
    c.toRecipe = (do
      let _ ← c.validate
      c.checkTarget
      c.checkEnv
      return c.recipe) := by
  rw [toRecipe, applyAll_steps]

/-- A recipe is checked anyway when it is made, so a check before changes nothing. -/
theorem validate_toRecipe (c : Config) :
    (c.validate.bind fun _ => c.toRecipe) = c.toRecipe := by
  unfold toRecipe
  generalize Recipe.start.applyAll c.steps = built
  cases c.validate <;> rfl

theorem toRecipe_eq_ok_recipe_iff :
    c.toRecipe = .ok r ↔ (∃ version, c.validate = .ok version) ∧ c.checkTarget = .ok () ∧
      c.checkEnv = .ok () ∧ c.recipe = r := by
  rw [toRecipe_eq, bind_eq_ok_iff]
  constructor
  · rintro ⟨version, valid, rest⟩
    obtain ⟨_, target, rest⟩ := bind_eq_ok_iff.mp rest
    obtain ⟨_, env, same⟩ := bind_eq_ok_iff.mp rest
    exact ⟨⟨version, valid⟩, target, env, Except.ok.inj same⟩
  · rintro ⟨⟨version, valid⟩, target, env, rfl⟩
    refine ⟨version, valid, ?_⟩
    rw [target, env]
    rfl

theorem recipe_of_toRecipe (accepted : c.toRecipe = .ok r) : r = c.recipe :=
  (toRecipe_eq_ok_recipe_iff.mp accepted).2.2.2.symm

end Config

end ImageRecipe
