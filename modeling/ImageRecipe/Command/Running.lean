import ImageRecipe.Command.Basic
import ImageRecipe.Command.Notes
import ImageRecipe.Log.Logged

/-!
Running a command. What it does is decided by the text of its configuration alone: it prints a
text, writes a file or does nothing more. `FileTree.run` does that on a tree of files; nothing is
written before the whole text is there.
-/
namespace ImageRecipe

open Log

inductive Delivery where
  | nothing
  | print (text : String)
  | write (path text : String)
deriving DecidableEq, Repr

namespace Command

def load (path : String) (content : Except Refusal String) : Logged Failure Config := do
  let text ← Logged.silent (content.mapError (Failure.unreadable path))
  Logged.note (Config.contentsNote text)
  Logged.silent ((readText Config.reads text).mapError (Failure.notLoaded path))

def recipeOf (c : Config) : Logged Failure Recipe :=
  ⟨c.notes, c.toRecipe.mapError Failure.faulty⟩

def dockerfileOf (r : Recipe) : Logged Failure String :=
  ⟨r.notes, r.render.mapError Failure.faulty⟩

/-- What a command does, given what reading its configuration gave. -/
def plan (content : Except Refusal String) : Command → Logged Failure Delivery
  | generate config outputDir => do
    let path := (generate config outputDir).configPath
    Logged.note (startNote path)
    let recipe ← recipeOf (← load path content)
    match outputDir with
    | none =>
      Logged.note printNote
      return .print (← dockerfileOf recipe)
    | some dir => return .write (dockerfilePath dir) (← dockerfileOf recipe)
  | validate config => do
    let path := (validate config).configPath
    let config ← load path content
    let version ← Logged.silent (config.validate.mapError Failure.faulty)
    let _ ← dockerfileOf (← recipeOf config)
    ⟨validNotes path version, .ok .nothing⟩

end Command

/-- A command that has run: its records, what it printed, whether it succeeded, and the files as
they are now. -/
structure Run where
  records : List Record
  printed : String
  result : Except Failure Unit
  tree : FileTree

def FileTree.run (t : FileTree) (command : Command) (s : Setting := {}) : Run :=
  let plan := command.plan (t.readText command.configPath s)
  match plan.result with
  | .error failure => ⟨plan.records, "", .error failure, t⟩
  | .ok .nothing => ⟨plan.records, "", .ok (), t⟩
  | .ok (.print text) => ⟨plan.records, text, .ok (), t⟩
  | .ok (.write path text) =>
    match t.writeText path text s with
    | .error refusal => ⟨plan.records, "", .error (.unwritable path refusal), t⟩
    | .ok tree => ⟨plan.records ++ Command.writtenNotes path, "", .ok (), tree⟩

end ImageRecipe
