import ImageRecipe.Proofs.Config.Reading
import ImageRecipe.Proofs.Data.Records

/-!
What a configuration is stored as is read back as that configuration: every entry that is left out
stands for what is there without it, and every form of an argument keeps apart from the other. Only
an exec form without tokens is stored and not read.
-/
namespace ImageRecipe

open Yaml RecordField

variable {levels : Nat}

namespace Argument

theorem data_ne_null (a : Argument) : a.data ≠ .null := by
  cases a <;> nofun

def content : Argument → Content
  | shell command => .map [(.text "shell", .text command)]
  | exec tokens => .map [(.text "exec", .list (tokens.map .text))]

theorem restores_content (a : Argument) : Restores Spot.content (levels + 2) a.data a.content := by
  cases a with
  | shell command => exact restores_content_entry (restores_content_text command)
  | exec tokens =>
    exact restores_content_entry (restores_content_list fun _ _ => restores_content_text _)

theorem texts?_text (tokens : List String) : texts? (tokens.map .text) = some tokens := by
  induction tokens with
  | nil => rfl
  | cons token tokens ih =>
    rw [texts?] at ih ⊢
    rw [List.map_cons, List.mapM_cons, ih]
    rfl

theorem ofContent?_content (a : Argument) : Draft.ofContent? a.content = some a.draft := by
  cases a with
  | shell command => rfl
  | exec tokens =>
    simp [content, Draft.ofContent?, Forms.add, Form.ofKey?, texts?_text, draft]

theorem reads_data (a : Argument) (path : Path) {depth : Nat} (enough : levels + 2 ≤ depth) :
    reads ⟨path, a.data.node, depth⟩ = Fault.lift (a.check.map fun _ => a) := by
  rw [reads, restores_content a path depth enough, pure_bind, ofContent?_content, ← resolve_draft]

theorem restores {a : Argument} (checked : a.check = .ok ()) :
    Restores reads (levels + 2) a.data a := by
  intro path depth enough
  rw [reads_data a path enough, checked]
  rfl

theorem refuses : Refuses reads (levels + 2) (exec []).data := by
  intro path depth enough
  rw [reads_data _ path enough]
  exact gives_throw _

theorem refuses_optional : Refuses (Spot.optional reads) (levels + 2) (exec []).data :=
  ImageRecipe.refuses_optional (data_ne_null _) refuses

end Argument

namespace HealthCheck

/-- The statement of a health check is read back, whether or not its parts fit together. -/
theorem restores_draft {d : Draft} (checked : ∀ a ∈ d.command, a.check = .ok ()) :
    Restores (Spot.record "struct HealthCheckConfig" fields [] .blank) (levels + 3) d.data d := by
  refine restores_record (by decide) ?_ nofun
  refine .cons (takes_text rfl) (.cons (takes_text rfl) (.cons (takes_text rfl) ?_))
  refine .cons (takes_text rfl) (.cons (takes_optional rfl (fun _ => nofun) ?retries) ?_)
  case retries => exact fun _ _ => restores_count _
  refine .cons (takes_optional rfl Argument.data_ne_null fun a there => ?_) (.nil d)
  exact Argument.restores (checked a there)

theorem draft_command (h : HealthCheck) : h.draft.command = h.command? := by
  cases h <;> rfl

theorem restores {h : HealthCheck} (checked : ∀ a ∈ h.command?, a.check = .ok ()) :
    Restores reads (levels + 3) h.data h := by
  have command : ∀ a ∈ h.draft.command, a.check = .ok () := h.draft_command ▸ checked
  intro path depth enough
  rw [reads, HealthCheck.data, restores_draft command path depth enough, pure_bind,
    resolve_draft checked]
  rfl

theorem refuses {h : HealthCheck} (malformed : .exec [] ∈ h.command?) :
    Refuses reads (levels + 3) h.data := by
  have command : h.draft.command = some (.exec []) := h.draft_command.trans malformed
  intro path depth enough
  refine gives_none_bind (refuses_record "cmd" rfl ?_ (refuses_value Argument.refuses_optional)
    path depth enough)
  simp [command]

end HealthCheck

namespace CopyEntry

theorem restores (e : CopyEntry) : Restores reads (levels + 1) e.data e := by
  refine restores_record (by decide) ?_ ?complete
  case complete =>
    intro name required
    rw [List.mem_singleton.mp required]
    exact List.mem_cons_self
  refine .cons (takes_value (restores_text _)) (.cons (takes_value (restores_text _)) ?_)
  exact .cons (takes_text rfl) (.cons (takes_text rfl) (.cons (takes_flag rfl) (.nil e)))

end CopyEntry

namespace Assembly

theorem restores (a : Assembly) : Restores reads (levels + 1) a.data a := by
  refine restores_record (by decide) (.cons (takes_value (restores_text _)) ?_) nofun
  exact .cons (takes_text rfl) (.cons (takes_text rfl) (.cons (takes_flag rfl) (.nil a)))

end Assembly

namespace Config

theorem restores {c : Config} (checked : c.Checked) : Restores reads (levels + 4) c.data c := by
  have argument {name : String} {put : Option Argument → Config → Config} {v : Option Argument}
      {c : Config} (unset : put none c = c) (checked : ∀ a ∈ v, a.check = .ok ()) :
      (of name (Spot.optional Argument.reads) put).Takes (levels + 3) (v.map Argument.data) c
        (put v c) :=
    takes_optional unset Argument.data_ne_null fun a there => Argument.restores (checked a there)
  refine restores_record (by decide) ?_ nofun
  -- each `rfl` says that an entry left out stands for what a blank configuration has
  refine .cons (takes_text rfl) (.cons (takes_textMap rfl) (.cons (takes_text rfl) ?_))
  refine .cons (takes_text rfl) (.cons (takes_text rfl) ?_)
  refine .cons (argument rfl checked.shell) (.cons (argument rfl checked.cmd) ?_)
  refine .cons (argument rfl checked.entrypoint) (.cons (takes_texts rfl) ?_)
  refine .cons (takes_texts rfl) (.cons (takes_texts rfl) ?_)
  refine .cons (takes_textData rfl) (.cons (takes_textData rfl) ?_)
  refine .cons (takes_value (restores_flag _)) ?_
  refine .cons (takes_optional rfl (fun _ => nofun) ?healthCheck) ?_
  case healthCheck => exact fun h there => HealthCheck.restores (checked.healthCheck h there)
  refine .cons (takes_list rfl fun e _ => e.restores) ?_
  refine .cons (takes_list rfl fun a _ => a.restores) ?_
  exact .cons (takes_textMap rfl) (.cons (takes_texts rfl) (.nil c))

theorem refuses {c : Config} (malformed : .exec [] ∈ c.everyArgument) :
    Refuses reads (levels + 4) c.data := by
  rcases mem_everyArgument.mp malformed with cmd | entrypoint | shell | ⟨h, there, command⟩
  · refine refuses_record "cmd" rfl ?_ (refuses_value Argument.refuses_optional)
    simp [Option.mem_def.mp cmd]
  · refine refuses_record "entrypoint" rfl ?_ (refuses_value Argument.refuses_optional)
    simp [Option.mem_def.mp entrypoint]
  · refine refuses_record "shell" rfl ?_ (refuses_value Argument.refuses_optional)
    simp [Option.mem_def.mp shell]
  · have check : Refuses (Spot.optional HealthCheck.reads) (levels + 3) h.data :=
      refuses_optional (Data.compact_ne_null _) (HealthCheck.refuses command)
    refine refuses_record "healthcheck" rfl ?_ (refuses_value check)
    simp [Option.mem_def.mp there]

/-- A configuration comes back from its data as it was, unless an argument has an exec form without
tokens; then nothing comes back. -/
theorem ofData_data (c : Config) :
    (ofData c.data = .ok c ↔ ∀ a ∈ c.everyArgument, a.check = .ok ()) ∧
      ((∃ error, ofData c.data = .error error) ↔ .exec [] ∈ c.everyArgument) := by
  have restored (every : ∀ a ∈ c.everyArgument, a.check = .ok ()) : ofData c.data = .ok c :=
    value_of_restores (restores (checked_iff.mpr every)) (by decide : 0 + 4 ≤ nestingLimit)
  have refused (malformed : .exec [] ∈ c.everyArgument) : ∃ error, ofData c.data = .error error :=
    value_of_refuses (refuses malformed) (by decide : 0 + 4 ≤ nestingLimit)
  refine ⟨⟨fun read => checked_iff.mp (Loaded.checked ⟨_, read⟩), restored⟩, ?_, refused⟩
  rintro ⟨error, read⟩
  by_cases malformed : .exec [] ∈ c.everyArgument
  · exact malformed
  · have every : ∀ a ∈ c.everyArgument, a.check = .ok () := fun a member =>
      Argument.check_eq_ok_iff.mpr fun same => malformed (same ▸ member)
    rw [restored every] at read
    cases read

def intricate : Config :=
  { base := some ""
    baseReference := some .empty
    shell := some (.exec ["sh", "-c"])
    cmd := some (.shell "")
    env := .ofList [("B", none), ("A", some ""), ("~", some "null")]
    healthCheck := some (.probe ⟨some "30s", none, some "", some 3, .exec ["curl", "localhost"]⟩)
    copies := [{ source := "conf", exported := some false }, { source := "" }]
    assemblies := [{ name := "true", user := some "1000" }]
    cacheFrom := ["", "fedora:39"] }

theorem ofData_data_intricate :
    ofData intricate.data = .ok intricate ∧
      ∃ error, ofData { intricate with shell := some (.exec []) }.data = .error error :=
  ⟨(ofData_data intricate).1.mpr (by decide), (ofData_data _).2.mpr (by decide)⟩

end Config

end ImageRecipe
