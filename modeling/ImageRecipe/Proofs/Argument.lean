import Mathlib.Data.List.Basic
import ImageRecipe.Argument

namespace ImageRecipe.Argument

/-- The values in the forms of a statement. A shell form carries one even if it is empty, an exec
form only if it has a token. -/
def Draft.values : Draft → List Argument
  | plain command => [.shell command]
  | forms command tokens =>
    (command.map Argument.shell).toList ++
      ((tokens.filter (· ≠ [])).map Argument.exec).toList

variable {a : Argument} {d : Draft} {fault : Fault}

theorem check_eq_ok_iff : a.check = .ok () ↔ a ≠ .exec [] := by
  rcases a with command | (_ | ⟨token, tokens⟩) <;> simp [check]

theorem fault_of_check (refused : a.check = .error fault) : fault = .malformedArgument := by
  unfold check at refused
  split at refused
  · exact (Except.error.inj refused).symm
  · cases refused

theorem resolve_eq (d : Draft) :
    d.resolve =
      match d.values with
      | [a] => .ok a
      | _ => .error .malformedArgument := by
  rcases d with command | ⟨_ | command, _ | (_ | ⟨token, tokens⟩)⟩ <;> rfl

theorem resolve_eq_ok_iff : d.resolve = .ok a ↔ d.values = [a] := by
  rw [resolve_eq]
  split
  · rename_i b carried
    simp [carried]
  · rename_i several
    simpa using several a

theorem resolve_eq_error_iff :
    d.resolve = .error fault ↔ d.values.length ≠ 1 ∧ fault = .malformedArgument := by
  rw [resolve_eq, ne_eq, List.length_eq_one_iff, not_exists]
  split
  · rename_i b carried
    simp [carried]
  · rename_i several
    have notOne : ∀ b, d.values ≠ [b] := several
    simp [notOne, @eq_comm _ fault]

theorem check_of_mem_values (carried : a ∈ d.values) : a.check = .ok () := by
  rw [check_eq_ok_iff]
  rintro rfl
  cases d <;> simp [Draft.values] at carried

theorem check_of_resolve (resolved : d.resolve = .ok a) : a.check = .ok () := by
  apply check_of_mem_values
  rw [resolve_eq_ok_iff.mp resolved]
  exact List.mem_singleton_self a

theorem resolve_draft (a : Argument) : a.draft.resolve = a.check.map fun _ => a := by
  rcases a with command | (_ | ⟨token, tokens⟩) <;> rfl

theorem resolve_draft_eq_ok_iff : a.draft.resolve = .ok a ↔ a.check = .ok () := by
  rw [resolve_draft]
  cases a.check <;> simp [Except.map]

theorem resolve_draft_eq_error_iff :
    a.draft.resolve = .error .malformedArgument ↔ a.check ≠ .ok () := by
  rw [resolve_draft]
  cases outcome : a.check with
  | ok _ => simp [Except.map]
  | error fault => simp [Except.map, fault_of_check outcome]

/-- A statement is accepted exactly if its forms carry one value, and that value is then the
argument; it passes the check. An argument that passes comes back from the statement that names its
form, one that does not is refused. So the check lets pass what some statement is accepted as. -/
theorem resolve_sole_value :
    (∀ d : Draft,
      ((∃ a, d.resolve = .ok a) ↔ d.values.length = 1) ∧
      (∀ fault, d.resolve = .error fault ↔ d.values.length ≠ 1 ∧ fault = .malformedArgument) ∧
      ∀ a, d.resolve = .ok a ↔ d.values = [a]) ∧
    ∀ a : Argument,
      (∀ d : Draft, d.resolve = .ok a → a.check = .ok ()) ∧
      (a.draft.resolve = .ok a ↔ a.check = .ok ()) ∧
      (a.draft.resolve = .error .malformedArgument ↔ a.check ≠ .ok ()) ∧
      (a.check = .ok () ↔ ∃ d : Draft, d.resolve = .ok a) := by
  refine ⟨fun d => ⟨?_, fun _ => resolve_eq_error_iff, fun _ => resolve_eq_ok_iff⟩, fun a => ?_⟩
  · simp only [resolve_eq_ok_iff, List.length_eq_one_iff]
  · refine ⟨fun _ => check_of_resolve, resolve_draft_eq_ok_iff, resolve_draft_eq_error_iff, ?_, ?_⟩
    · intro checked
      exact ⟨a.draft, resolve_draft_eq_ok_iff.mpr checked⟩
    · rintro ⟨_, resolved⟩
      exact check_of_resolve resolved

example : (Draft.forms (some "") (some [])).resolve = .ok (.shell "") := rfl

end ImageRecipe.Argument
