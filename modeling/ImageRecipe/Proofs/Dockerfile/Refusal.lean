import ImageRecipe.Dockerfile.Rendering
import ImageRecipe.Proofs.Argument
import ImageRecipe.Proofs.Port

namespace ImageRecipe

namespace Recipe

/-- The arguments that a recipe has, wherever they stand. -/
inductive HasArgument (r : Recipe) (a : Argument) : Prop where
  | cmd : r.cmd = some a → HasArgument r a
  | entrypoint : r.entrypoint = some a → HasArgument r a
  | shell : r.shell = some a → HasArgument r a
  | probe {p : Probe} : r.healthCheck = some (.probe p) → p.command = a → HasArgument r a

variable {r : Recipe} {fault : Fault}

theorem mem_arguments_iff {a : Argument} : a ∈ r.arguments ↔ r.HasArgument a := by
  simp only [arguments, List.mem_append, Option.mem_toList, Option.bind_eq_some_iff]
  constructor
  · rintro (((cmd | entrypoint) | shell) | ⟨check, set, runs⟩)
    · exact .cmd cmd
    · exact .entrypoint entrypoint
    · exact .shell shell
    · cases check with
      | probe p => exact .probe set (Option.some.inj runs)
      | disabled => cases runs
  · rintro (cmd | entrypoint | shell | ⟨set, rfl⟩)
    · exact .inl (.inl (.inl cmd))
    · exact .inl (.inl (.inr entrypoint))
    · exact .inl (.inr shell)
    · exact .inr ⟨_, set, rfl⟩

def ArgumentsPass (r : Recipe) : Prop := ∀ a, r.HasArgument a → a.check = .ok ()

theorem forM_arguments_eq_ok_iff : r.arguments.forM Argument.check = .ok () ↔ r.ArgumentsPass := by
  rw [forM_eq_ok_iff]
  exact forall_congr' fun a => imp_congr_left mem_arguments_iff

theorem forM_arguments_eq_error_iff :
    r.arguments.forM Argument.check = .error fault ↔
      fault = .malformedArgument ∧ ∃ a, r.HasArgument a ∧ ∃ why, a.check = .error why := by
  constructor
  · intro failed
    obtain ⟨a, member, refused⟩ := exists_of_forM_eq_error failed
    exact ⟨Argument.fault_of_check refused, a, mem_arguments_iff.mp member, fault, refused⟩
  · rintro ⟨rfl, a, has, why, refused⟩
    -- The check may stop at an argument before `a`, but it blames that one for the same fault.
    cases outcome : r.arguments.forM Argument.check with
    | ok _ =>
      rw [forM_arguments_eq_ok_iff.mp outcome a has] at refused
      cases refused
    | error other =>
      obtain ⟨_, _, blamed⟩ := exists_of_forM_eq_error outcome
      rw [Argument.fault_of_check blamed]

theorem check_eq_error_iff :
    r.check = .error fault ↔
      (fault = .malformedArgument ∧ ∃ a, r.HasArgument a ∧ ∃ why, a.check = .error why) ∨
      (r.ArgumentsPass ∧
        ∃ entry, fault = .invalidPort entry ∧ Port.FirstRefused r.ports entry) := by
  rw [check, bind_eq_error_iff, forM_arguments_eq_error_iff, Port.mapM_normalize_eq_error_iff]
  refine or_congr_right ?_
  constructor
  · rintro ⟨_, pass, ports⟩
    exact ⟨forM_arguments_eq_ok_iff.mp pass, ports⟩
  · rintro ⟨pass, ports⟩
    exact ⟨(), forM_arguments_eq_ok_iff.mpr pass, ports⟩

theorem exists_check_iff :
    (∃ ports, r.check = .ok ports) ↔
      r.ArgumentsPass ∧ ∀ entry ∈ r.ports, ∃ port, Port.normalize entry = .ok port := by
  simp only [check, bind_eq_ok_iff]
  rw [← Port.exists_mapM_normalize_iff, ← forM_arguments_eq_ok_iff]
  constructor
  · rintro ⟨ports, _, pass, accepted⟩
    exact ⟨pass, ports, accepted⟩
  · rintro ⟨pass, ports, accepted⟩
    exact ⟨ports, (), pass, accepted⟩

theorem render_eq_map_check (r : Recipe) :
    r.render = r.check.map fun ports => dockerfileText (r.instructionsWith ports) := by
  rw [render, instructions]
  cases r.check <;> rfl

theorem render_eq_error_iff : r.render = .error fault ↔ r.check = .error fault := by
  rw [render_eq_map_check]
  cases r.check <;> simp [Except.map]

theorem exists_render_iff : (∃ text, r.render = .ok text) ↔ ∃ ports, r.check = .ok ports := by
  rw [render_eq_map_check]
  cases r.check <;> simp [Except.map]

/-- Rendering fails for an argument that does not pass its check, whatever else is wrong; if there
is none, for the first port that is refused; and for nothing else. Recipes with the same arguments,
wherever these stand, and the same ports fail alike. -/
theorem render_faults (r : Recipe) :
    (r.render = .error .malformedArgument ↔
      ∃ a, r.HasArgument a ∧ ∃ why, a.check = .error why) ∧
    (∀ entry, r.render = .error (.invalidPort entry) ↔
      (∀ a, r.HasArgument a → a.check = .ok ()) ∧ Port.FirstRefused r.ports entry) ∧
    ((∃ text, r.render = .ok text) ↔ (∀ a, r.HasArgument a → a.check = .ok ()) ∧
      ∀ entry ∈ r.ports, ∃ port, Port.normalize entry = .ok port) ∧
    (∀ fault, r.render = .error fault →
      fault = .malformedArgument ∨ ∃ entry ∈ r.ports, fault = .invalidPort entry) ∧
    ∀ other : Recipe, (∀ a, other.HasArgument a ↔ r.HasArgument a) → other.ports = r.ports →
      ∀ fault, other.render = .error fault ↔ r.render = .error fault := by
  simp only [render_eq_error_iff, check_eq_error_iff, exists_render_iff, exists_check_iff]
  refine ⟨?_, ?_, Iff.rfl, ?_, ?_⟩
  -- The two kinds of faults exclude each other, which leaves one side of the disjunction.
  · simp
  · intro entry
    simp [ArgumentsPass]
  · rintro fault (⟨rfl, _⟩ | ⟨_, entry, rfl, before, after, split, _⟩)
    · exact .inl rfl
    · exact .inr ⟨entry, split ▸ List.mem_append_right before List.mem_cons_self, rfl⟩
  · intro other arguments ports fault
    rw [ports]
    simp only [ArgumentsPass, arguments]

example :
    ({ start with healthCheck := some (.probe ⟨none, none, none, none, .exec []⟩)
                  ports := ["x"] } : Recipe).render = .error .malformedArgument := rfl

end Recipe

end ImageRecipe
