import ImageRecipe.Fault
import ImageRecipe.Text.Lowercase
import ImageRecipe.Text.Trim

namespace ImageRecipe.Port

def protocols : List String := ["/tcp", "/udp"]

/-- The characters before a protocol at the end, or all of them if there is none. At most one
protocol is taken off. -/
def withoutProtocol (cs : List Char) : List Char :=
  match protocols.findSome? fun p => Text.rest? p.toList.reverse cs.reverse with
  | some number => number.reverse
  | none => cs

def normalize (entry : String) : Except Fault String :=
  let small := Text.lower entry
  let number := withoutProtocol small.toList
  if !number.isEmpty && number.all Char.isDigit then .ok small else .error (.invalidPort entry)

theorem withoutProtocol_append (cs : List Char) :
    ∃ suffix, cs = withoutProtocol cs ++ suffix ∧
      (suffix = [] ∨ ∃ p ∈ protocols, suffix = p.toList) := by
  unfold withoutProtocol
  cases found : protocols.findSome? fun p => Text.rest? p.toList.reverse cs.reverse with
  | none => exact ⟨[], (List.append_nil cs).symm, .inl rfl⟩
  | some number =>
    obtain ⟨p, member, cut⟩ := List.exists_of_findSome?_eq_some found
    have same := congrArg List.reverse (Text.rest?_eq_some_iff.mp cut)
    rw [List.reverse_reverse, List.reverse_append, List.reverse_reverse] at same
    exact ⟨p.toList, same, .inr ⟨p, member, rfl⟩⟩

theorem normalize_eq_ok_iff {entry port : String} :
    normalize entry = .ok port ↔
      port = Text.lower entry ∧ withoutProtocol port.toList ≠ [] ∧
        ∀ c ∈ withoutProtocol port.toList, c.isDigit = true := by
  constructor
  · intro accepted
    simp only [normalize] at accepted
    split at accepted
    · rename_i digits
      obtain rfl := Except.ok.inj accepted
      simpa using digits
    · cases accepted
  · rintro ⟨rfl, nonempty, digits⟩
    simp only [normalize]
    rw [if_pos]
    simpa using ⟨nonempty, digits⟩

end ImageRecipe.Port
