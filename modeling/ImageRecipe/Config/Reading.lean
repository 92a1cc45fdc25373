import ImageRecipe.Config.Basic
import ImageRecipe.Yaml.Content

namespace ImageRecipe

open Yaml

/-- The outcome of a check on values that are read already; its fault has no place of its own. -/
def Fault.lift {α : Type} : Except Fault α → Reads α
  | .ok a => return a
  | .error fault => throw (.unplaced (.fault fault))

namespace Argument

def texts? (items : List Content) : Option (List String) :=
  items.mapM fun item =>
    match item with
    | .text s => some s
    | _ => none

inductive Form where
  | shell
  | exec
  | unknown
deriving DecidableEq

def Form.ofKey? : Content → Option Form
  | .text s => some (if s = "shell" then .shell else if s = "exec" then .exec else .unknown)
  | .natural n => some (if n = 0 then .shell else if n = 1 then .exec else .unknown)
  | _ => none

/-- The forms read so far; a form that was there without a value differs from one that was not. -/
structure Forms where
  shell : Option (Option String)
  exec : Option (Option (List String))

def Forms.add (forms : Forms) (entry : Content × Content) : Option Forms := do
  match ← Form.ofKey? entry.1, entry.2 with
  | .unknown, _ => return forms
  | .shell, value =>
    if forms.shell.isSome then none
    else
      match value with
      | .null => return { forms with shell := some none }
      | .text s => return { forms with shell := some (some s) }
      | _ => none
  | .exec, value =>
    if forms.exec.isSome then none
    else
      match value with
      | .null => return { forms with exec := some none }
      | .list items => return { forms with exec := some (some (← texts? items)) }
      | _ => none

def Draft.ofContent? : Content → Option Draft
  | .text s => some (.plain s)
  | .map entries => do
    let forms ← entries.foldlM Forms.add ⟨none, none⟩
    return .forms forms.shell.join forms.exec.join
  | _ => none

def reads (s : Spot) : Reads Argument := do
  match Draft.ofContent? (← s.content) with
  | none => throw (.unplaced .noArgument)
  | some draft => Fault.lift draft.resolve

end Argument

namespace HealthCheck

def Draft.blank : Draft := ⟨none, none, none, none, none, none⟩

def fields : List (RecordField Draft) :=
  [.of "mode" (Spot.optional Spot.text) fun v d => { d with mode := v },
   .of "interval" (Spot.optional Spot.text) fun v d => { d with interval := v },
   .of "timeout" (Spot.optional Spot.text) fun v d => { d with timeout := v },
   .of "start-period" (Spot.optional Spot.text) fun v d => { d with startPeriod := v },
   .of "retries" (Spot.optional Spot.count) fun v d => { d with retries := v },
   .of "cmd" (Spot.optional Argument.reads) fun v d => { d with command := v }]

def reads (s : Spot) : Reads HealthCheck := do
  let draft ← s.record "struct HealthCheckConfig" fields [] Draft.blank
  Fault.lift draft.resolve

end HealthCheck

namespace CopyEntry

def fields : List (RecordField CopyEntry) :=
  [.of "source" Spot.text fun v e => { e with source := v },
   .of "destination" Spot.text fun v e => { e with destination := v },
   .of "target" (Spot.optional Spot.text) fun v e => { e with target := v },
   .of "user" (Spot.optional Spot.text) fun v e => { e with user := v },
   .of "export" (Spot.optional Spot.flag) fun v e => { e with exported := v }]

def reads : Spot → Reads CopyEntry :=
  Spot.record "struct CopyConfig" fields ["source"] { source := "" }

end CopyEntry

namespace Assembly

def fields : List (RecordField Assembly) :=
  [.of "name" Spot.text fun v a => { a with name := v },
   .of "target-dir" (Spot.optional Spot.text) fun v a => { a with targetDir := v },
   .of "user" (Spot.optional Spot.text) fun v a => { a with user := v },
   .of "export-target-dir" (Spot.optional Spot.flag) fun v a => { a with exportTargetDir := v }]

def reads : Spot → Reads Assembly :=
  Spot.record "struct AssemblyConfig" fields [] {}

end Assembly

namespace Config

def fields : List (RecordField Config) :=
  [.of "from" (Spot.optional Spot.text) fun v c => { c with base := v },
   .of "from-ext" (Spot.optional (Spot.map Spot.text)) fun v c => { c with baseReference := v },
   .of "maintainer" (Spot.optional Spot.text) fun v c => { c with maintainer := v },
   .of "workdir" (Spot.optional Spot.text) fun v c => { c with workdir := v },
   .of "user" (Spot.optional Spot.text) fun v c => { c with user := v },
   .of "shell" (Spot.optional Argument.reads) fun v c => { c with shell := v },
   .of "cmd" (Spot.optional Argument.reads) fun v c => { c with cmd := v },
   .of "entrypoint" (Spot.optional Argument.reads) fun v c => { c with entrypoint := v },
   .of "run" (Spot.list Spot.text) fun v c => { c with runs := v },
   .of "ports" (Spot.list Spot.text) fun v c => { c with ports := v },
   .of "volumes" (Spot.list Spot.text) fun v c => { c with volumes := v },
   .of "env" (Spot.map (Spot.optional Spot.text)) fun v c => { c with env := v },
   .of "labels" (Spot.map (Spot.optional Spot.text)) fun v c => { c with labels := v },
   .of "optimise" Spot.flag fun v c => { c with optimise := v },
   .of "healthcheck" (Spot.optional HealthCheck.reads) fun v c => { c with healthCheck := v },
   .of "copy" (Spot.list CopyEntry.reads) fun v c => { c with copies := v },
   .of "assemblies" (Spot.list Assembly.reads) fun v c => { c with assemblies := v },
   .of "args" (Spot.optional (Spot.map Spot.text)) fun v c => { c with buildArgs := v },
   .of "cache-from" (Spot.list Spot.text) fun v c => { c with cacheFrom := v }]

def reads : Spot → Reads Config :=
  Spot.record "struct BuildConfig" fields [] {}

end Config

inductive TextError where
  | notYaml
  | notReadable (error : ReadError)
deriving DecidableEq, Repr

/-- The value that a text holds. Whether the text is YAML comes first. -/
def readText {α : Type} (reads : Spot → Reads α) (text : String) : Except TextError α :=
  match document? text with
  | none => .error .notYaml
  | some d => (d.value reads).mapError .notReadable

end ImageRecipe
