import ImageRecipe.Proofs.Config.Recipe
import ImageRecipe.Proofs.Dockerfile.Layout

namespace ImageRecipe

/-- One copy with all that decides its instructions. -/
structure Landing where
  source : String
  /-- The directory that the content goes into. -/
  dir : String
  /-- The path of the content below that directory. -/
  below : String
  /-- The user that the content is copied for. -/
  owner : Option String
deriving DecidableEq

namespace Landing

/-- The path in the image. The root is written as nothing, since a slash follows. -/
def path (l : Landing) : String :=
  (if l.dir = "/" then "" else l.dir) ++ "/" ++ l.below

def chown (l : Landing) : Option String :=
  l.owner.bind fun user => (Ownership.ofUser user).chown

def continueAs (l : Landing) : Option String :=
  l.owner.bind fun user => (Ownership.ofUser user).continueAs

def copy (l : Landing) : Instruction where
  keyword := .copy
  args := (l.chown.map ("--chown=" ++ ·)).toList ++ [l.source, l.path]

def group (l : Landing) : List Instruction :=
  match l.continueAs with
  | none => [l.copy]
  | some next => [⟨.user, ["root"]⟩, l.copy, ⟨.user, [next]⟩]

theorem filter_group (l : Landing) : l.group.filter (·.keyword = .copy) = [l.copy] := by
  unfold group
  split <;> rfl

end Landing

namespace Recipe

variable {r : Recipe} {instructions : List Instruction}

def landing (r : Recipe) (rule : CopyRule) : Landing where
  source := rule.source
  dir := rule.placement.target.getD r.baseDir
  below := rule.destination
  owner := rule.placement.user.or r.assemblyUser

theorem copyInstructions_eq (r : Recipe) (rule : CopyRule) :
    r.copyInstructions rule = (r.landing rule).group := by
  have owner : (r.landing rule).owner = r.copyUser rule := rfl
  unfold copyInstructions Landing.group Landing.copy Landing.continueAs Landing.chown
  rw [owner]
  cases r.copyUser rule with
  | none => rfl
  | some user =>
    simp only [Option.bind_some]
    generalize Ownership.ofUser user = ownership
    cases ownership.continueAs <;> rfl

/-- The copies stand together, and there are no others before or behind them. -/
theorem instructions_copies (written : r.instructions = .ok instructions) :
    ∃ before after,
      instructions = before ++ (r.copies.map r.landing).flatMap Landing.group ++ after ∧
        ∀ i ∈ before ++ after, i.keyword ≠ .copy := by
  obtain ⟨before, copies, after, split, holds, others⟩ :=
    layout_around .copy (instructions_layout written)
  have landed : r.copies.flatMap r.copyInstructions =
      (r.copies.map r.landing).flatMap Landing.group := by
    rw [List.flatMap_map]
    exact congrArg (r.copies.flatMap ·) (funext r.copyInstructions_eq)
  rw [section_copy_eq holds, landed] at split
  refine ⟨before, after, split, ?_⟩
  intro i member
  obtain ⟨j, part, other, inSection, inside⟩ := others i member
  rw [section_keyword inSection other i inside]
  exact other

end Recipe

namespace Config

def leadingTarget (c : Config) : String :=
  match c.assemblies with
  | first :: _ => first.target
  | [] => "/maven"

def leadingUser (c : Config) : Option String :=
  match c.assemblies with
  | first :: _ => first.user
  | [] => none

def assemblyLanding (c : Config) (a : Assembly) : Landing where
  source := a.name
  dir := a.target
  below := ""
  owner := a.user.or c.leadingUser

def entryLanding (c : Config) (e : CopyEntry) : Landing where
  source := e.source
  dir := e.target.getD c.leadingTarget
  below := String.ofList (e.destination.toList.dropWhile (· = '/'))
  owner := e.user.or c.leadingUser

/-- The landings of a configuration: those of its assemblies, then those of its entries. -/
def landings (c : Config) : List Landing :=
  c.assemblies.map c.assemblyLanding ++ c.copies.map c.entryLanding

theorem recipe_landings (c : Config) : c.recipe.copies.map c.recipe.landing = c.landings := by
  have dir : c.recipe.baseDir = c.leadingTarget := by
    unfold recipe leadingTarget
    cases c.assemblies <;> rfl
  have user : c.recipe.assemblyUser = c.leadingUser := by
    unfold recipe leadingUser
    cases c.assemblies <;> rfl
  have assembly (a : Assembly) : c.recipe.landing a.rule = c.assemblyLanding a := by
    rw [Recipe.landing, user]
    rfl
  have entry (e : CopyEntry) : c.recipe.landing e.rule = c.entryLanding e := by
    rw [Recipe.landing, dir, user]
    rfl
  have rules : c.recipe.copies = c.assemblies.map Assembly.rule ++ c.copies.map CopyEntry.rule :=
    rfl
  rw [rules, List.map_append, List.map_map, List.map_map, landings]
  exact congrArg₂ (· ++ ·) (List.map_congr_left fun a _ => assembly a)
    (List.map_congr_left fun e _ => entry e)

/-- The copies of a Dockerfile are the landings of its configuration in their order, each with the
switches of user that its owner asks for, and there are no others. The base directory is not
exported as such if there is an assembly; otherwise that is left open. -/
theorem render_landings (c : Config) (r : Recipe) (text : String) (accepted : c.toRecipe = .ok r)
    (rendered : r.render = .ok text) :
    ∃ instructions before after, r.instructions = .ok instructions ∧
      text = dockerfileText instructions ∧
      instructions = before ++ c.landings.flatMap Landing.group ++ after ∧
      (∀ i ∈ before ++ after, i.keyword ≠ .copy) ∧
      instructions.filter (·.keyword = .copy) = c.landings.map Landing.copy ∧
      instructions.countP (·.keyword = .copy) = c.assemblies.length + c.copies.length ∧
      r.exportBaseDir = if c.assemblies = [] then none else some false := by
  obtain ⟨instructions, written, rfl⟩ := Recipe.render_eq_ok_iff.mp rendered
  obtain ⟨before, after, parts, others⟩ := Recipe.instructions_copies written
  rw [recipe_of_toRecipe accepted, recipe_landings] at parts
  have outside (part : List Instruction) (among : ∀ i ∈ part, i ∈ before ++ after) :
      part.filter (·.keyword = .copy) = [] := by
    rw [List.filter_eq_nil_iff]
    intro i member
    simpa using others i (among i member)
  have copies : instructions.filter (·.keyword = .copy) = c.landings.map Landing.copy := by
    rw [parts, List.filter_append, List.filter_append,
      outside before fun i member => List.mem_append_left after member,
      outside after fun i member => List.mem_append_right before member, List.filter_flatMap]
    simp only [Landing.filter_group, List.nil_append, List.append_nil]
    exact List.flatMap_pure_eq_map _ _
  refine ⟨instructions, before, after, written, rfl, parts, others, copies, ?_, ?_⟩
  · rw [List.countP_eq_length_filter, copies]
    simp [landings]
  · rw [recipe_of_toRecipe accepted, recipe]
    cases c.assemblies <;> rfl

def scattered : Config :=
  { assemblies :=
      [{ name := "app", targetDir := some "$HOME/app", user := some "app:users:app" },
        { name := "lib" }, { name := "etc", targetDir := some "/", user := some "root::" }]
    copies :=
      [{ source := "conf", destination := "//app/conf" },
        { source := "bin", destination := "bin", target := some "/", user := some "::" },
        { source := "log", target := some "/var/" }] }

theorem render_landings_scattered :
    ∃ r text instructions, scattered.toRecipe = .ok r ∧ r.render = .ok text ∧
      r.instructions = .ok instructions ∧ text = dockerfileText instructions ∧
      instructions.filter (·.keyword = .copy) =
        [⟨.copy, ["--chown=app:users", "app", "$HOME/app/"]⟩,
          ⟨.copy, ["--chown=app:users", "lib", "/lib/"]⟩,
          ⟨.copy, ["--chown=root", "etc", "/"]⟩,
          ⟨.copy, ["--chown=app:users", "conf", "$HOME/app/app/conf"]⟩,
          ⟨.copy, ["bin", "/bin"]⟩,
          ⟨.copy, ["--chown=app:users", "log", "/var//"]⟩] ∧
      r.exportBaseDir = some false := by
  obtain ⟨instructions, _, _, written, same, _, _, copies, _, exported⟩ :=
    render_landings scattered _ _ rfl rfl
  exact ⟨_, _, instructions, rfl, rfl, written, same, copies.trans (by decide), exported⟩

end Config

end ImageRecipe
