import ImageRecipe.Config.Checks
import ImageRecipe.Config.Reading
import ImageRecipe.Proofs.HealthCheck
import ImageRecipe.Proofs.Yaml.Reading

namespace ImageRecipe

open Yaml

theorem Fault.gives_lift {α : Type} {P : α → Prop} {outcome : Except Fault α}
    (holds : ∀ a, outcome = .ok a → P a) : Gives P (Fault.lift outcome) := by
  cases outcome with
  | ok a => exact gives_pure (holds a rfl)
  | error fault => exact gives_throw _

namespace Argument

theorem gives_reads (s : Spot) : Gives (fun a => a.check = .ok ()) (reads s) := by
  refine gives_bind (gives_any s.content) fun content _ => ?_
  split
  · exact gives_throw _
  · exact Fault.gives_lift fun a resolved => check_of_resolve resolved

end Argument

namespace HealthCheck

theorem gives_reads (s : Spot) :
    Gives (fun h => ∀ a ∈ h.command?, a.check = .ok ()) (reads s) :=
  gives_bind (gives_any _) fun _ _ => Fault.gives_lift fun _ resolved => check_of_resolve resolved

end HealthCheck

namespace Config

/-- Every argument passes its check. -/
structure Checked (c : Config) : Prop where
  cmd : ∀ a ∈ c.cmd, a.check = .ok ()
  entrypoint : ∀ a ∈ c.entrypoint, a.check = .ok ()
  shell : ∀ a ∈ c.shell, a.check = .ok ()
  healthCheck : ∀ h ∈ c.healthCheck, ∀ a ∈ h.command?, a.check = .ok ()

def everyArgument (c : Config) : List Argument :=
  c.arguments ++ (c.healthCheck.bind HealthCheck.command?).toList

theorem mem_everyArgument {c : Config} {a : Argument} :
    a ∈ c.everyArgument ↔
      a ∈ c.cmd ∨ a ∈ c.entrypoint ∨ a ∈ c.shell ∨ ∃ h ∈ c.healthCheck, a ∈ h.command? := by
  simp [everyArgument, arguments, Option.bind_eq_some_iff]

theorem checked_iff {c : Config} : c.Checked ↔ ∀ a ∈ c.everyArgument, a.check = .ok () := by
  constructor
  · intro checked a member
    rcases mem_everyArgument.mp member with cmd | entrypoint | shell | ⟨h, there, command⟩
    · exact checked.cmd a cmd
    · exact checked.entrypoint a entrypoint
    · exact checked.shell a shell
    · exact checked.healthCheck h there a command
  · intro every
    have passes (a : Argument) (member) : a.check = .ok () := every a (mem_everyArgument.mpr member)
    exact
      { cmd := fun a there => passes a (.inl there)
        entrypoint := fun a there => passes a (.inr (.inl there))
        shell := fun a there => passes a (.inr (.inr (.inl there)))
        healthCheck := fun h there a command => passes a (.inr (.inr (.inr ⟨h, there, command⟩))) }

theorem fields_keep_checked : ∀ field ∈ fields, field.Keeps Checked := by
  have argument (s : Spot) := s.gives_optional Argument.gives_reads
  have healthCheck (s : Spot) := s.gives_optional HealthCheck.gives_reads
  simp only [fields, List.forall_mem_cons]
  -- four fields hold arguments, and all others leave them as they are
  refine ⟨?_, ?_, ?_, ?_, ?_, ?shell, ?cmd, ?entrypoint, ?_, ?_, ?_, ?_, ?_, ?_, ?healthCheck, ?_,
    ?_, ?_, ?_, ?none⟩
  case shell =>
    exact RecordField.keeps_of argument fun _ _ shell h =>
      ⟨h.cmd, h.entrypoint, shell, h.healthCheck⟩
  case cmd =>
    exact RecordField.keeps_of argument fun _ _ cmd h =>
      ⟨cmd, h.entrypoint, h.shell, h.healthCheck⟩
  case entrypoint =>
    exact RecordField.keeps_of argument fun _ _ entrypoint h =>
      ⟨h.cmd, entrypoint, h.shell, h.healthCheck⟩
  case healthCheck =>
    exact RecordField.keeps_of healthCheck fun _ _ check h =>
      ⟨h.cmd, h.entrypoint, h.shell, check⟩
  case none =>
    intro field impossible
    cases impossible
  all_goals
    exact RecordField.keeps_of (fun s => gives_any _) fun _ _ _ h =>
      ⟨h.cmd, h.entrypoint, h.shell, h.healthCheck⟩

theorem gives_reads (s : Spot) : Gives Checked (reads s) := by
  have start : Checked {} := by
    constructor <;> intro a impossible <;> cases impossible
  exact Spot.gives_record fields_keep_checked start s

/-- A configuration that a document holds. -/
def Loaded (c : Config) : Prop := ∃ document : Document, document.value reads = .ok c

theorem loaded_of_readText {text : String} {c : Config} (read : readText reads text = .ok c) :
    c.Loaded := by
  unfold readText at read
  split at read
  · cases read
  · rename_i document _
    exact ⟨document, mapError_eq_ok_iff.mp read⟩

theorem Loaded.checked {c : Config} (loaded : c.Loaded) : c.Checked := by
  obtain ⟨document, read⟩ := loaded
  obtain ⟨⟨a, later⟩, given, rfl⟩ := map_eq_ok_iff.mp read
  exact gives_reads _ document 0 a later given

end Config

end ImageRecipe
