import ImageRecipe.Command.Running
import ImageRecipe.Proofs.Config.Recipe
import ImageRecipe.Proofs.Files

namespace ImageRecipe

open Log

namespace Command

def stages (path : String) (content : Except Refusal String) : Except Failure String := do
  let text ← content.mapError (Failure.unreadable path)
  let c ← (readText Config.reads text).mapError (Failure.notLoaded path)
  let r ← c.toRecipe.mapError Failure.faulty
  r.render.mapError Failure.faulty

def delivery (outputDir : Option String) (dockerfile : String) : Delivery :=
  match outputDir with
  | none => .print dockerfile
  | some dir => .write (dockerfilePath dir) dockerfile

theorem stages_eq (path : String) (content : Except Refusal String) :
    stages path content = (load path content).result.bind fun c =>
      (c.toRecipe.mapError Failure.faulty).bind fun r => r.render.mapError Failure.faulty := by
  unfold stages load
  simp only [Logged.result_bind]
  cases content.mapError (Failure.unreadable path) with
  | error failure => rfl
  | ok text => rfl

theorem result_generate (config outputDir : Option String) (content : Except Refusal String) :
    (plan content (.generate config outputDir)).result =
      (stages (config.getD Config.fileName) content).map (delivery outputDir) := by
  have planned : (plan content (.generate config outputDir)).result =
      (load (config.getD Config.fileName) content).result.bind fun c =>
        (c.toRecipe.mapError Failure.faulty).bind fun r =>
          (r.render.mapError Failure.faulty).bind fun text => .ok (delivery outputDir text) := by
    unfold plan
    cases outputDir <;> simp only [Logged.result_bind] <;> rfl
  rw [planned, stages_eq]
  cases (load (config.getD Config.fileName) content).result with
  | error failure => rfl
  | ok c =>
    simp only [Except.bind]
    cases c.toRecipe.mapError Failure.faulty with
    | error failure => rfl
    | ok r => cases r.render.mapError Failure.faulty <;> rfl

theorem result_validate (config : Option String) (content : Except Refusal String) :
    (plan content (.validate config)).result =
      (stages (config.getD Config.fileName) content).map fun _ => .nothing := by
  have planned : (plan content (.validate config)).result =
      (load (config.getD Config.fileName) content).result.bind fun c =>
        (c.validate.mapError Failure.faulty).bind fun _ =>
          (c.toRecipe.mapError Failure.faulty).bind fun r =>
            (r.render.mapError Failure.faulty).bind fun _ => .ok .nothing := by
    unfold plan
    simp only [Logged.result_bind]
    rfl
  rw [planned, stages_eq]
  cases (load (config.getD Config.fileName) content).result with
  | error failure => rfl
  | ok c =>
    simp only [Except.bind]
    -- with the check made explicit in front of the recipe, both sides begin with it
    rw [← Config.validate_toRecipe c]
    cases c.validate with
    | error fault => rfl
    | ok version =>
      simp only [Except.mapError, Except.bind]
      cases c.toRecipe with
      | error fault => rfl
      | ok r => cases r.render <;> rfl

end Command

namespace FileTree

open Command

variable (t : FileTree) (s : Setting) (config : Option String)

def dockerfile : Except Failure String :=
  stages (config.getD Config.fileName) (t.readText (config.getD Config.fileName) s)

theorem dockerfile_eq_ok_iff {text : String} :
    t.dockerfile s config = .ok text ↔ ∃ source c r,
      t.readText (config.getD Config.fileName) s = .ok source ∧
        ImageRecipe.readText Config.reads source = .ok c ∧ c.toRecipe = .ok r ∧
          r.render = .ok text := by
  simp only [dockerfile, stages, bind_eq_ok_iff, mapError_eq_ok_iff]
  constructor
  · rintro ⟨source, read, c, loaded, r, made, rendered⟩
    exact ⟨source, c, r, read, loaded, made, rendered⟩
  · rintro ⟨source, c, r, read, loaded, made, rendered⟩
    exact ⟨source, read, c, loaded, r, made, rendered⟩

theorem run_validate :
    ∃ records, t.run (.validate config) s =
      ⟨records, "", (t.dockerfile s config).map fun _ => (), t⟩ := by
  have result := result_validate config (t.readText (config.getD Config.fileName) s)
  unfold run dockerfile
  simp only [configPath, result]
  cases stages (config.getD Config.fileName) (t.readText (config.getD Config.fileName) s) with
  | error failure => exact ⟨_, rfl⟩
  | ok text => exact ⟨_, rfl⟩

theorem run_generate_printing :
    ∃ records, t.run (.generate config none) s =
      ⟨records, (t.dockerfile s config).toOption.getD "", (t.dockerfile s config).map fun _ => (),
        t⟩ := by
  have result := result_generate config none (t.readText (config.getD Config.fileName) s)
  unfold run dockerfile
  simp only [configPath, result]
  cases stages (config.getD Config.fileName) (t.readText (config.getD Config.fileName) s) with
  | error failure => exact ⟨_, rfl⟩
  | ok text => exact ⟨_, rfl⟩

theorem run_generate_writing (dir : String) :
    ∃ records, t.run (.generate config (some dir)) s =
      match t.dockerfile s config with
      | .error failure => ⟨records, "", .error failure, t⟩
      | .ok text =>
        match t.writeText (dockerfilePath dir) text s with
        | .error refusal => ⟨records, "", .error (.unwritable (dockerfilePath dir) refusal), t⟩
        | .ok next => ⟨records, "", .ok (), next⟩ := by
  have result := result_generate config (some dir) (t.readText (config.getD Config.fileName) s)
  unfold run dockerfile
  simp only [configPath, result]
  cases stages (config.getD Config.fileName) (t.readText (config.getD Config.fileName) s) with
  | error failure => exact ⟨_, rfl⟩
  | ok text =>
    simp only [Except.map, delivery]
    cases t.writeText (dockerfilePath dir) text s with
    | error refusal => exact ⟨_, rfl⟩
    | ok next => exact ⟨_, rfl⟩

/-- To check a configuration is to make its Dockerfile without printing it. So it is in every tree
and every setting, and beyond that whatever reading the configuration may give. -/
theorem validate_agrees :
    (t.run (.validate config) s).result = (t.run (.generate config none) s).result ∧
      (t.run (.validate config) s).printed = "" ∧ (t.run (.validate config) s).tree = t ∧
      (t.run (.generate config none) s).tree = t ∧
      ∀ content, (plan content (.validate config)).result =
        (plan content (.generate config none)).result.map fun _ => .nothing := by
  obtain ⟨_, validated⟩ := t.run_validate s config
  obtain ⟨_, generated⟩ := t.run_generate_printing s config
  rw [validated, generated]
  refine ⟨rfl, rfl, rfl, rfl, fun content => ?_⟩
  rw [result_validate, result_generate]
  cases stages (config.getD Config.fileName) content <;> rfl

theorem dockerfileName_isName : Name Recipe.dockerfileName :=
  ⟨by decide, by decide, by decide, by decide⟩

/-- Writing a Dockerfile into a directory, set against printing it. -/
structure AllOrNothing (t : FileTree) (s : Setting) (config : Option String) (dir : String)
    (printing writing : Run) : Prop where
  kept : printing.tree = t
  silent : writing.printed = ""
  complete : printing.result = .ok () → ∃ source c r,
    t.readText (config.getD Config.fileName) s = .ok source ∧
      ImageRecipe.readText Config.reads source = .ok c ∧ c.toRecipe = .ok r ∧
        r.render = .ok printing.printed
  failed : ∀ failure, printing.result = .error failure →
    printing.printed = "" ∧ writing.result = .error failure ∧ writing.tree = t
  refused : printing.result = .ok () → (∀ place, ¬ t.Writable s (dockerfilePath dir) place) →
    ∃ refusal, t.writePlace (dockerfilePath dir) s = .error refusal ∧
      writing.result = .error (.unwritable (dockerfilePath dir) refusal) ∧ writing.tree = t
  written : ∀ place, printing.result = .ok () → t.Writable s (dockerfilePath dir) place →
    writing.result = .ok () ∧
      (∃ base, t.Leads s dir base ∧ place = base ++ [Recipe.dockerfileName]) ∧
      t.Overwrites writing.tree place printing.printed.toUTF8 ∧
      (s.refusal? .read place = none →
        writing.tree.readText (dockerfilePath dir) s = .ok printing.printed)

/-- A Dockerfile is printed as a whole, or written as a whole to one place below the directory, or
nothing happens. Writing fails as printing does, or because the Dockerfile cannot be written where
its path leads. -/
theorem generate_all_or_nothing (dir : String) :
    t.AllOrNothing s config dir (t.run (.generate config none) s)
      (t.run (.generate config (some dir)) s) := by
  obtain ⟨_, printed⟩ := t.run_generate_printing s config
  obtain ⟨_, written⟩ := t.run_generate_writing s config dir
  rw [printed, written]
  cases outcome : t.dockerfile s config with
  | error failure =>
    refine ⟨rfl, rfl, ?_, ?_, ?_, ?_⟩
    · rintro ⟨⟩
    · rintro _ ⟨⟩
      exact ⟨rfl, rfl, rfl⟩
    · rintro ⟨⟩
    · rintro _ ⟨⟩
  | ok text =>
    have made := (t.dockerfile_eq_ok_iff s config).mp outcome
    simp only [writeText]
    cases target : t.writePlace (dockerfilePath dir) s with
    | error refusal =>
      refine ⟨rfl, rfl, fun _ => made, ?_, fun _ _ => ⟨refusal, target, rfl, rfl⟩, ?_⟩
      · rintro _ ⟨⟩
      · intro other _ writable
        exact absurd writable (not_writable target)
    | ok place =>
      have writable := writePlace_eq_ok_iff.mp target
      refine ⟨rfl, rfl, fun _ => made, ?_, fun _ never => absurd writable (never place), ?_⟩
      · rintro _ ⟨⟩
      · intro other _ otherWritable
        obtain rfl := writable.unique otherWritable
        obtain ⟨base, led, _, same⟩ := resolve_pathIn dockerfileName_isName writable.leads
        exact ⟨rfl, ⟨base, led, same⟩, put_overwrites writable.leads _, readText_put writable⟩

def circular : FileTree := ⟨[], [(["srv", "out", "Dockerfile"], "from: a\n".toUTF8)]⟩

def beside : Setting := { workDir := ["srv", "out"] }

def locked : Setting where
  workDir := ["srv", "out"]
  refusal? access _ := if access = .write then some .denied else none

theorem generate_all_or_nothing_circular :
    (circular.run (.generate (some "/srv/out/Dockerfile") none) beside).printed = "FROM a\n" ∧
      (circular.run (.generate (some "/srv/out/Dockerfile") (some "..//out")) beside).tree.file?
        ["srv", "out", "Dockerfile"] = some "FROM a\n".toUTF8 ∧
      (circular.run (.generate (some "Dockerfile") (some "/srv/out")) locked).result =
        .error (.unwritable "/srv/out/Dockerfile" .denied) ∧
      (circular.run (.generate (some "Dockerfile") (some "/srv/out")) locked).tree = circular := by
  have printed : (circular.run (.generate (some "/srv/out/Dockerfile") none) beside).printed =
      "FROM a\n" := by
    decide +kernel
  have target : circular.writePlace (dockerfilePath "..//out") beside =
      .ok ["srv", "out", "Dockerfile"] := by
    decide +kernel
  have denied : circular.writePlace (dockerfilePath "/srv/out") locked = .error .denied := by
    decide +kernel
  obtain ⟨_, _, overwrites, _⟩ :=
    (generate_all_or_nothing circular beside (some "/srv/out/Dockerfile") "..//out").written _
      (by decide +kernel) (writePlace_eq_ok_iff.mp target)
  obtain ⟨refusal, refused, failed, kept⟩ :=
    (generate_all_or_nothing circular locked (some "Dockerfile") "/srv/out").refused
      (by decide +kernel) fun _ => not_writable denied
  cases denied.symm.trans refused
  have content := overwrites.file
  rw [printed] at content
  exact ⟨printed, content, failed, kept⟩

end FileTree

end ImageRecipe
