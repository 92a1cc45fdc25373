import ImageRecipe.Recipe.Step

namespace ImageRecipe.Recipe

namespace Step

/-- What stands in the way of a step. -/
def fault? (r : Recipe) : Step → Option Fault
  | .baseDir dir => if BaseDir.isValid dir then none else some (.malformedBaseDir dir)
  | .env entries => (emptyKey? (r.env.merge entries).toList).map .emptyEnvValue
  | _ => none

def effect (r : Recipe) : Step → Recipe
  | .baseImage image => { r with baseImage := some image }
  | .maintainer name => { r with maintainer := some name }
  | .workdir dir => { r with workdir := some dir }
  | .baseDir dir => { r with baseDir := dir }
  | .cmd argument => { r with cmd := some argument }
  | .entrypoint argument => { r with entrypoint := some argument }
  | .shell argument => { r with shell := some argument }
  | .healthCheck check => { r with healthCheck := some check }
  | .assemblyUser name => { r with assemblyUser := some name }
  | .user name => { r with user := some name }
  | .copy source destination placement =>
    { r with copies := r.copies ++ [CopyRule.make source destination placement] }
  | .expose ports => { r with ports := r.ports ++ ports }
  | .run commands => { r with runs := r.runs ++ commands.filter (!Text.isBlankText ·) }
  | .volumes paths => { r with volumes := r.volumes ++ paths }
  | .exportBaseDir exported => { r with exportBaseDir := some exported }
  | .env entries => { r with env := r.env.merge entries }
  | .labels entries => { r with labels := r.labels.merge entries }
  | .optimise => { r with optimise := true }

def copies : Step → List CopyRule
  | .copy source destination placement => [CopyRule.make source destination placement]
  | _ => []

def ports : Step → List String
  | .expose ports => ports
  | _ => []

def runs : Step → List String
  | .run commands => commands.filter (!Text.isBlankText ·)
  | _ => []

def paths : Step → List String
  | .volumes paths => paths
  | _ => []

def envEntries : Step → List (String × String)
  | .env entries => entries
  | _ => []

def labelEntries : Step → List (String × String)
  | .labels entries => entries
  | _ => []

end Step

variable {r next : Recipe} {step : Step}

theorem apply_eq (r : Recipe) (step : Step) :
    r.apply step =
      match step.fault? r with
      | some fault => .error fault
      | none => .ok (step.effect r) := by
  cases step with
  | baseDir dir =>
    simp only [apply, BaseDir.check, Step.fault?]
    split <;> rfl
  | env entries =>
    simp only [apply, mergeEnv, Step.fault?]
    split
    · rename_i key found; rw [found]; rfl
    · rename_i found; rw [found]; rfl
  | _ => rfl

theorem apply_eq_ok_iff :
    r.apply step = .ok next ↔ step.fault? r = none ∧ step.effect r = next := by
  rw [apply_eq]
  cases step.fault? r <;> simp

theorem apply_eq_error_iff {fault : Fault} :
    r.apply step = .error fault ↔ step.fault? r = some fault := by
  rw [apply_eq]
  cases step.fault? r <;> simp

theorem advance_eq (r : Recipe) (step : Step) :
    r.advance step = if step.fault? r = none then step.effect r else r := by
  rw [advance, apply_eq]
  cases step.fault? r <;> rfl

/-- What a run of steps leaves in lists and maps. -/
structure Adds (steps : List Step) (r next : Recipe) : Prop where
  copies : next.copies = r.copies ++ steps.flatMap Step.copies
  ports : next.ports = r.ports ++ steps.flatMap Step.ports
  runs : next.runs = r.runs ++ steps.flatMap Step.runs
  volumes : next.volumes = r.volumes ++ steps.flatMap Step.paths
  env : next.env = r.env.merge (steps.flatMap Step.envEntries)
  labels : next.labels = r.labels.merge (steps.flatMap Step.labelEntries)

theorem adds_nil (r : Recipe) : Adds [] r r := by
  constructor <;> simp

theorem effect_adds (r : Recipe) (step : Step) : Adds [step] r (step.effect r) := by
  cases step <;> constructor <;>
    simp [Step.effect, Step.copies, Step.ports, Step.runs, Step.paths, Step.envEntries,
      Step.labelEntries]

theorem Adds.append {xs ys : List Step} {a b c : Recipe} (first : Adds xs a b)
    (second : Adds ys b c) : Adds (xs ++ ys) a c where
  copies := by rw [second.copies, first.copies, List.flatMap_append, List.append_assoc]
  ports := by rw [second.ports, first.ports, List.flatMap_append, List.append_assoc]
  runs := by rw [second.runs, first.runs, List.flatMap_append, List.append_assoc]
  volumes := by rw [second.volumes, first.volumes, List.flatMap_append, List.append_assoc]
  env := by rw [second.env, first.env, List.flatMap_append, OrderedMap.merge_append]
  labels := by rw [second.labels, first.labels, List.flatMap_append, OrderedMap.merge_append]

theorem applyAll_cons_eq_ok_iff {steps : List Step} :
    r.applyAll (step :: steps) = .ok next ↔
      step.fault? r = none ∧ (step.effect r).applyAll steps = .ok next := by
  rw [applyAll, apply_eq]
  cases step.fault? r with
  | none => exact ⟨fun accepted => ⟨rfl, accepted⟩, fun accepted => accepted.2⟩
  | some fault =>
    constructor
    · intro impossible; cases impossible
    · rintro ⟨impossible, _⟩; cases impossible

/-- What holds of no step and of each step that meets no fault, and is passed on from run to run,
holds of every run that is not stopped. -/
theorem applyAll_relates {R : List Step → Recipe → Recipe → Prop} (nil : ∀ r, R [] r r)
    (one : ∀ r step, R [step] r (step.effect r))
    (append : ∀ {xs ys a b c}, R xs a b → R ys b c → R (xs ++ ys) a c) {steps : List Step}
    (accepted : r.applyAll steps = .ok next) : R steps r next := by
  induction steps generalizing r with
  | nil =>
    obtain rfl := Except.ok.inj accepted
    exact nil r
  | cons step steps ih =>
    obtain ⟨_, rest⟩ := applyAll_cons_eq_ok_iff.mp accepted
    exact append (one r step) (ih rest)

theorem applyAll_adds {steps : List Step} (accepted : r.applyAll steps = .ok next) :
    Adds steps r next :=
  applyAll_relates adds_nil effect_adds Adds.append accepted

theorem run_eq_of_applyAll {steps : List Step} (accepted : r.applyAll steps = .ok next) :
    r.run steps = next := by
  induction steps generalizing r with
  | nil => exact Except.ok.inj accepted
  | cons step steps ih =>
    obtain ⟨faultless, rest⟩ := applyAll_cons_eq_ok_iff.mp accepted
    have taken : r.advance step = step.effect r := by rw [advance_eq, if_pos faultless]
    rw [run, List.foldl_cons, taken]
    exact ih rest

end ImageRecipe.Recipe
