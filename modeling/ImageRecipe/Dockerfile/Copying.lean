import ImageRecipe.Dockerfile.Instruction
import ImageRecipe.Recipe.Basic

namespace ImageRecipe

structure Ownership where
  /-- The value of `--chown`, if the owner is not empty. -/
  chown : Option String
  /-- The user to go on as. -/
  continueAs : Option String
deriving DecidableEq, Repr

namespace Ownership

/-- The components of a user. Colons at the end do not count. -/
def components (user : String) : List String :=
  Text.pieces ':' (Text.dropEnd (· = ':') user)

/-- An owner or a group that is empty cannot be written in a `--chown` flag. -/
def ofComponents (parts : List String) : Ownership where
  chown :=
    match parts with
    | [] => none
    | owner :: others =>
      if owner = "" then none
      else
        match others with
        | group :: _ => if group = "" then some owner else some (owner ++ ":" ++ group)
        | [] => some owner
  continueAs := parts[2]?.filter (· ≠ "")

def ofUser (user : String) : Ownership := ofComponents (components user)

end Ownership

namespace Recipe

/-- The directory a rule copies into: its own target, else the base directory. The root is written
as nothing, since a slash follows. -/
def targetDir (r : Recipe) (rule : CopyRule) : String :=
  let dir := rule.placement.target.getD r.baseDir
  if dir = "/" then "" else dir

def copyUser (r : Recipe) (rule : CopyRule) : Option String :=
  rule.placement.user.or r.assemblyUser

def copyInstruction (r : Recipe) (rule : CopyRule) (chown : Option String) : Instruction where
  keyword := .copy
  args := (chown.map ("--chown=" ++ ·)).toList ++
    [rule.source, r.targetDir rule ++ "/" ++ rule.destination]

def copyInstructions (r : Recipe) (rule : CopyRule) : List Instruction :=
  match r.copyUser rule with
  | none => [r.copyInstruction rule none]
  | some user =>
    let ownership := Ownership.ofUser user
    let copy := r.copyInstruction rule ownership.chown
    match ownership.continueAs with
    | none => [copy]
    | some next => [⟨.user, ["root"]⟩, copy, ⟨.user, [next]⟩]

end Recipe

end ImageRecipe
