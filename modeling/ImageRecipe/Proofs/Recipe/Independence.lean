import ImageRecipe.Proofs.Recipe.Step

/-!
Steps on different fields do not touch each other. A step reads and writes one field: it leaves all
others as they are (`get_advance_of_ne`), and what it does to its own depends on nothing else
(`get_advance_congr`). So neighbours on different fields may change places, and the steps on a field
decide it alone.
-/
namespace ImageRecipe.Recipe

inductive Field where
  | baseImage
  | maintainer
  | workdir
  | baseDir
  | entrypoint
  | cmd
  | exportBaseDir
  | assemblyUser
  | user
  | healthCheck
  | copies
  | ports
  | shell
  | runs
  | env
  | labels
  | volumes
  | optimise
deriving DecidableEq, Repr

abbrev Field.Value : Field → Type
  | baseImage | maintainer | workdir | assemblyUser | user => Option String
  | baseDir => String
  | entrypoint | cmd | shell => Option Argument
  | exportBaseDir => Option Bool
  | healthCheck => Option HealthCheck
  | copies => List CopyRule
  | ports | runs | volumes => List String
  | env | labels => OrderedMap String
  | optimise => Bool

def get (r : Recipe) : (f : Field) → f.Value
  | .baseImage => r.baseImage
  | .maintainer => r.maintainer
  | .workdir => r.workdir
  | .baseDir => r.baseDir
  | .entrypoint => r.entrypoint
  | .cmd => r.cmd
  | .exportBaseDir => r.exportBaseDir
  | .assemblyUser => r.assemblyUser
  | .user => r.user
  | .healthCheck => r.healthCheck
  | .copies => r.copies
  | .ports => r.ports
  | .shell => r.shell
  | .runs => r.runs
  | .env => r.env
  | .labels => r.labels
  | .volumes => r.volumes
  | .optimise => r.optimise

/-- The field that a step writes. -/
def Step.field : Step → Field
  | .baseImage _ => .baseImage
  | .maintainer _ => .maintainer
  | .workdir _ => .workdir
  | .baseDir _ => .baseDir
  | .cmd _ => .cmd
  | .entrypoint _ => .entrypoint
  | .shell _ => .shell
  | .healthCheck _ => .healthCheck
  | .assemblyUser _ => .assemblyUser
  | .user _ => .user
  | .copy _ _ _ => .copies
  | .expose _ => .ports
  | .run _ => .runs
  | .volumes _ => .volumes
  | .exportBaseDir _ => .exportBaseDir
  | .env _ => .env
  | .labels _ => .labels
  | .optimise => .optimise

def outcome (r : Recipe) (step : Step) : Except Fault Unit :=
  (r.apply step).map fun _ => ()

def trace (r : Recipe) : List Step → List (Step × Except Fault Unit)
  | [] => []
  | step :: steps => (step, r.outcome step) :: trace (r.advance step) steps

def taken (r : Recipe) (steps : List Step) : List Step :=
  ((r.trace steps).filter (·.2.isOk)).map Prod.fst

variable {r s : Recipe} {step a b : Step} {f : Field}

theorem eq_of_get (same : ∀ f, r.get f = s.get f) : r = s := by
  cases r
  cases s
  simp only [mk.injEq]
  exact ⟨same .baseImage, same .maintainer, same .workdir, same .baseDir, same .entrypoint,
    same .cmd, same .exportBaseDir, same .assemblyUser, same .user, same .healthCheck,
    same .copies, same .ports, same .shell, same .runs, same .env, same .labels, same .volumes,
    same .optimise⟩

theorem outcome_eq (r : Recipe) (step : Step) :
    r.outcome step = match step.fault? r with
      | some fault => .error fault
      | none => .ok () := by
  rw [outcome, apply_eq]
  cases step.fault? r <;> rfl

theorem get_effect_of_ne (other : step.field ≠ f) : (step.effect r).get f = r.get f := by
  cases step <;> cases f <;> first | rfl | exact absurd rfl other

theorem get_effect_congr (same : r.get step.field = s.get step.field) :
    (step.effect r).get step.field = (step.effect s).get step.field := by
  cases step with
  | copy source destination placement =>
    exact congrArg (· ++ [CopyRule.make source destination placement]) same
  | expose ports => exact congrArg (· ++ ports) same
  | run commands => exact congrArg (· ++ commands.filter (!Text.isBlankText ·)) same
  | volumes paths => exact congrArg (· ++ paths) same
  | env entries => exact congrArg (OrderedMap.merge · entries) same
  | labels entries => exact congrArg (OrderedMap.merge · entries) same
  | _ => rfl

theorem fault?_congr (same : r.get step.field = s.get step.field) :
    step.fault? r = step.fault? s := by
  cases step with
  | env entries =>
    exact congrArg (fun env : OrderedMap String =>
      (emptyKey? (env.merge entries).toList).map Fault.emptyEnvValue) same
  | _ => rfl

theorem outcome_congr (same : r.get step.field = s.get step.field) :
    r.outcome step = s.outcome step := by
  rw [outcome_eq, outcome_eq, fault?_congr same]

theorem get_advance_of_ne (other : step.field ≠ f) : (r.advance step).get f = r.get f := by
  rw [advance_eq]
  split
  · exact get_effect_of_ne other
  · rfl

/-- Where recipes agree on a field, they still do after the same step. -/
theorem get_advance_congr (same : r.get f = s.get f) :
    (r.advance step).get f = (s.advance step).get f := by
  by_cases own : step.field = f
  · subst own
    rw [advance_eq, advance_eq, fault?_congr same]
    split
    · exact get_effect_congr same
    · exact same
  · rw [get_advance_of_ne own, get_advance_of_ne own, same]

theorem outcome_advance (different : a.field ≠ b.field) :
    (r.advance a).outcome b = r.outcome b :=
  outcome_congr (get_advance_of_ne different)

theorem advance_comm (different : a.field ≠ b.field) :
    (r.advance a).advance b = (r.advance b).advance a := by
  apply eq_of_get
  intro f
  by_cases written : b.field = f
  · subst written
    have first : (r.advance a).get b.field = r.get b.field := get_advance_of_ne different
    rw [get_advance_congr first, get_advance_of_ne different]
  · have first : (r.advance b).get f = r.get f := get_advance_of_ne written
    rw [get_advance_of_ne written, get_advance_congr first]

theorem run_cons (r : Recipe) (step : Step) (steps : List Step) :
    r.run (step :: steps) = (r.advance step).run steps := rfl

theorem run_append (r : Recipe) (xs ys : List Step) : r.run (xs ++ ys) = (r.run xs).run ys := by
  rw [run, List.foldl_append]
  rfl

theorem trace_append (r : Recipe) (xs ys : List Step) :
    r.trace (xs ++ ys) = r.trace xs ++ (r.run xs).trace ys := by
  induction xs generalizing r with
  | nil => rfl
  | cons step xs ih => rw [List.cons_append, trace, trace, ih, run_cons, List.cons_append]

theorem map_fst_trace (r : Recipe) (steps : List Step) : (r.trace steps).map Prod.fst = steps := by
  induction steps generalizing r with
  | nil => rfl
  | cons step steps ih => rw [trace, List.map_cons, ih]

/-- The steps on other fields may be left out of a run. -/
theorem get_run_filter (same : r.get f = s.get f) (steps : List Step) :
    (r.run steps).get f = (s.run (steps.filter (·.field = f))).get f := by
  induction steps generalizing r s with
  | nil => exact same
  | cons step steps ih =>
    by_cases own : step.field = f
    · rw [List.filter_cons_of_pos (by simpa using own)]
      exact ih (get_advance_congr same)
    · rw [List.filter_cons_of_neg (by simpa using own)]
      exact ih ((get_advance_of_ne own).trans same)

theorem taken_cons (r : Recipe) (step : Step) (steps : List Step) :
    r.taken (step :: steps) =
      if step.fault? r = none then step :: (step.effect r).taken steps else r.taken steps := by
  rw [taken, trace, outcome_eq, advance_eq]
  cases step.fault? r <;> rfl

/-- The steps that are not skipped run through and lead to the same recipe. -/
theorem applyAll_taken (r : Recipe) (steps : List Step) :
    r.applyAll (r.taken steps) = .ok (r.run steps) := by
  induction steps generalizing r with
  | nil => rfl
  | cons step steps ih =>
    rw [taken_cons, run_cons, advance_eq]
    split
    · rename_i faultless
      exact applyAll_cons_eq_ok_iff.mpr ⟨faultless, ih _⟩
    · exact ih r

theorem filter_taken (notBaseDir : f ≠ .baseDir) (notEnv : f ≠ .env) (r : Recipe)
    (steps : List Step) :
    (r.taken steps).filter (·.field = f) = steps.filter (·.field = f) := by
  induction steps generalizing r with
  | nil => rfl
  | cons step steps ih =>
    rw [taken_cons]
    split
    · simp only [List.filter_cons, ih]
    · rename_i fails
      have other : step.field ≠ f := by
        cases step with
        | baseDir dir => exact notBaseDir.symm
        | env entries => exact notEnv.symm
        | _ => exact absurd rfl fails
      rw [ih, List.filter_cons_of_neg (by simpa using other)]

def last? {α : Type} (value : Step → Option α) (steps : List Step) : Option α :=
  (steps.filterMap value).getLast?

theorem last?_append {α : Type} (value : Step → Option α) (xs ys : List Step) :
    last? value (xs ++ ys) = (last? value ys).or (last? value xs) := by
  rw [last?, List.filterMap_append, List.getLast?_append]
  rfl

/-- What a run of steps leaves in single values: the last one that a step gives. -/
structure Sets (steps : List Step) (r next : Recipe) : Prop where
  baseImage : next.baseImage =
    (last? (fun | .baseImage image => some image | _ => none) steps).or r.baseImage
  maintainer : next.maintainer =
    (last? (fun | .maintainer name => some name | _ => none) steps).or r.maintainer
  workdir : next.workdir =
    (last? (fun | .workdir dir => some dir | _ => none) steps).or r.workdir
  baseDir : next.baseDir =
    (last? (fun | .baseDir dir => some dir | _ => none) steps).getD r.baseDir
  entrypoint : next.entrypoint =
    (last? (fun | .entrypoint argument => some argument | _ => none) steps).or r.entrypoint
  cmd : next.cmd =
    (last? (fun | .cmd argument => some argument | _ => none) steps).or r.cmd
  exportBaseDir : next.exportBaseDir =
    (last? (fun | .exportBaseDir exported => some exported | _ => none) steps).or r.exportBaseDir
  assemblyUser : next.assemblyUser =
    (last? (fun | .assemblyUser name => some name | _ => none) steps).or r.assemblyUser
  user : next.user =
    (last? (fun | .user name => some name | _ => none) steps).or r.user
  healthCheck : next.healthCheck =
    (last? (fun | .healthCheck check => some check | _ => none) steps).or r.healthCheck
  shell : next.shell =
    (last? (fun | .shell argument => some argument | _ => none) steps).or r.shell
  optimise : next.optimise = true ↔ .optimise ∈ steps ∨ r.optimise = true

theorem sets_nil (r : Recipe) : Sets [] r r := by
  constructor <;> simp [last?]

theorem effect_sets (r : Recipe) (step : Step) : Sets [step] r (step.effect r) := by
  cases step <;> constructor <;> simp [Step.effect, last?]

theorem Sets.append {xs ys : List Step} {a b c : Recipe} (first : Sets xs a b)
    (second : Sets ys b c) : Sets (xs ++ ys) a c where
  baseImage := by rw [second.baseImage, first.baseImage, last?_append, Option.or_assoc]
  maintainer := by rw [second.maintainer, first.maintainer, last?_append, Option.or_assoc]
  workdir := by rw [second.workdir, first.workdir, last?_append, Option.or_assoc]
  baseDir := by rw [second.baseDir, first.baseDir, last?_append, Option.getD_or]
  entrypoint := by rw [second.entrypoint, first.entrypoint, last?_append, Option.or_assoc]
  cmd := by rw [second.cmd, first.cmd, last?_append, Option.or_assoc]
  exportBaseDir := by
    rw [second.exportBaseDir, first.exportBaseDir, last?_append, Option.or_assoc]
  assemblyUser := by rw [second.assemblyUser, first.assemblyUser, last?_append, Option.or_assoc]
  user := by rw [second.user, first.user, last?_append, Option.or_assoc]
  healthCheck := by rw [second.healthCheck, first.healthCheck, last?_append, Option.or_assoc]
  shell := by rw [second.shell, first.shell, last?_append, Option.or_assoc]
  optimise := by rw [second.optimise, first.optimise, List.mem_append, or_left_comm, or_assoc]

theorem applyAll_sets {next : Recipe} {steps : List Step} (accepted : r.applyAll steps = .ok next) :
    Sets steps r next :=
  applyAll_relates sets_nil effect_sets Sets.append accepted

/-- Two neighbours in a run of steps that write different fields may change places: the recipe stays
the same, and so does what becomes of each step. So a field is decided by the steps that write it.
What a run leaves is the last value of those that are not skipped, and the lists and maps that they
bring; none is skipped but on the base directory or the environment. -/
theorem independent_steps (r : Recipe) (steps : List Step) :
    (∀ before a b after, steps = before ++ a :: b :: after → a.field ≠ b.field →
      r.run (before ++ b :: a :: after) = r.run steps ∧
      ∃ front x y back, front.map Prod.fst = before ∧
        r.trace steps = front ++ (a, x) :: (b, y) :: back ∧
        r.trace (before ++ b :: a :: after) = front ++ (b, y) :: (a, x) :: back) ∧
    (∀ f, (r.run steps).get f = (r.run (steps.filter (·.field = f))).get f) ∧
    (∀ f, f ≠ .baseDir → f ≠ .env →
      (r.taken steps).filter (·.field = f) = steps.filter (·.field = f)) ∧
    Sets (r.taken steps) r (r.run steps) ∧ Adds (r.taken steps) r (r.run steps) := by
  refine ⟨?_, fun _ => get_run_filter rfl steps,
    fun _ notBaseDir notEnv => filter_taken notBaseDir notEnv r steps,
    applyAll_sets (applyAll_taken r steps), applyAll_adds (applyAll_taken r steps)⟩
  rintro before a b after rfl different
  have recipe := advance_comm (r := r.run before) different
  have second := outcome_advance (r := r.run before) different
  have first := outcome_advance (r := r.run before) different.symm
  constructor
  · rw [run_append, run_append, run_cons, run_cons, run_cons, run_cons, recipe]
  · refine ⟨r.trace before, (r.run before).outcome a, (r.run before).outcome b,
      (((r.run before).advance a).advance b).trace after, map_fst_trace r before, ?_, ?_⟩
    · rw [trace_append, trace, trace, second]
    · rw [trace_append, trace, trace, first, recipe]

def faltering : List Step :=
  [.env [("A", "1")], .env [("B", "b"), ("A", "")], .baseDir "opt", .baseDir "/opt"]

theorem independent_steps_faltering :
    (Step.env [("B", "b"), ("A", "")]).field ≠ (Step.baseDir "opt").field ∧
      start.run [.env [("A", "1")], .baseDir "opt", .env [("B", "b"), ("A", "")], .baseDir "/opt"] =
        start.run faltering ∧
      start.trace faltering =
        [(.env [("A", "1")], .ok ()),
          (.env [("B", "b"), ("A", "")], .error (.emptyEnvValue "A")),
          (.baseDir "opt", .error (.malformedBaseDir "opt")), (.baseDir "/opt", .ok ())] ∧
      Sets (start.taken faltering) start (start.run faltering) := by
  obtain ⟨swap, _, _, sets, _⟩ := independent_steps start faltering
  have swapped := swap [.env [("A", "1")]] _ _ [.baseDir "/opt"] rfl (by decide)
  exact ⟨by decide, swapped.1, rfl, sets⟩

end ImageRecipe.Recipe
