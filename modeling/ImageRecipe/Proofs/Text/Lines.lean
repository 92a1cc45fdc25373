/-!
Lines of a text in which a newline behind a backslash goes on with the line and any other one ends
it. Text that is cut nowhere and leaves no backslash at its end can be joined without a change to
the pieces; text without newlines and backslashes is of that kind.
-/
namespace ImageRecipe.Text

/-- Cuts at the newlines that no backslash directly precedes. `escaped` tells whether a backslash
stands before the characters, `line` is what the piece holds already. -/
def cutLines (escaped : Bool) (line : List Char) : List Char → List (List Char)
  | [] => [line]
  | c :: cs =>
    if c = '\n' ∧ escaped = false then line :: cutLines false [] cs
    else cutLines (c = '\\') (line ++ [c]) cs

def lines (s : String) : List String := (cutLines false [] s.toList).map String.ofList

def carry (escaped : Bool) : List Char → Option Bool
  | [] => some escaped
  | c :: cs => if c = '\n' ∧ escaped = false then none else carry (c = '\\') cs

/-- Characters that are not cut, nor escape what follows. -/
def Whole (cs : List Char) : Prop := carry false cs = some false

/-- A text without newline and backslash. -/
def Plain (s : String) : Prop := ∀ c ∈ s.toList, c ≠ '\n' ∧ c ≠ '\\'

instance (s : String) : Decidable (Plain s) :=
  List.decidableBAll (fun c => c ≠ '\n' ∧ c ≠ '\\') s.toList

theorem carry_append (escaped : Bool) (xs ys : List Char) :
    carry escaped (xs ++ ys) = (carry escaped xs).bind (carry · ys) := by
  induction xs generalizing escaped with
  | nil => rfl
  | cons c xs ih =>
    rw [List.cons_append, carry, carry]
    split
    · rfl
    · exact ih _

theorem cutLines_carry {escaped after : Bool} {xs : List Char} (line rest : List Char)
    (kept : carry escaped xs = some after) :
    cutLines escaped line (xs ++ rest) = cutLines after (line ++ xs) rest := by
  induction xs generalizing escaped line with
  | nil =>
    obtain rfl := Option.some.inj kept
    rw [List.nil_append, List.append_nil]
  | cons c xs ih =>
    rw [carry] at kept
    split at kept
    · cases kept
    · rename_i joined
      rw [List.cons_append, cutLines, if_neg joined, ih (line ++ [c]) kept]
      simp

theorem cutLines_whole {xs : List Char} (rest : List Char) (whole : Whole xs) :
    cutLines false [] (xs ++ '\n' :: rest) = xs :: cutLines false [] rest := by
  rw [cutLines_carry [] ('\n' :: rest) whole, List.nil_append, cutLines, if_pos ⟨rfl, rfl⟩]

example : lines "a\\\nb\n\nc" = ["a\\\nb", "", "c"] := by decide

theorem Whole.append {xs ys : List Char} (hx : Whole xs) (hy : Whole ys) : Whole (xs ++ ys) := by
  rw [Whole, carry_append, hx, Option.bind_some, hy]

theorem intercalate_induction {P : List Char → Prop} (empty : P [])
    (join : ∀ xs ys, P xs → P ys → P (xs ++ ys)) {separator : List Char} {parts : List (List Char)}
    (between : P separator) (each : ∀ part ∈ parts, P part) : P (separator.intercalate parts) := by
  induction parts with
  | nil => exact empty
  | cons part parts ih =>
    have first := each part List.mem_cons_self
    have others := ih fun other member => each other (.tail part member)
    cases parts with
    | nil => rwa [List.intercalate_singleton]
    | cons next parts =>
      rw [List.intercalate_cons_cons]
      exact join _ _ (join _ _ first between) others

theorem Whole.intercalate {separator : List Char} {parts : List (List Char)}
    (between : Whole separator) (each : ∀ part ∈ parts, Whole part) :
    Whole (separator.intercalate parts) :=
  intercalate_induction (P := Whole) rfl (fun _ _ hx hy => hx.append hy) between each

theorem whole_of_forall {cs : List Char} (plain : ∀ c ∈ cs, c ≠ '\n' ∧ c ≠ '\\') : Whole cs := by
  induction cs with
  | nil => rfl
  | cons c cs ih =>
    have here := plain c List.mem_cons_self
    rw [Whole, carry, if_neg fun h => here.1 h.1, decide_eq_false here.2]
    exact ih fun d member => plain d (.tail c member)

theorem Plain.whole {s : String} (plain : Plain s) : Whole s.toList := whole_of_forall plain

theorem Plain.append {s t : String} (hs : Plain s) (ht : Plain t) : Plain (s ++ t) := by
  intro c member
  rw [String.toList_append] at member
  exact (List.mem_append.mp member).elim (hs c) (ht c)

theorem Plain.intercalate {separator : String} {parts : List String} (between : Plain separator)
    (each : ∀ part ∈ parts, Plain part) : Plain (separator.intercalate parts) := by
  rw [Plain, String.toList_intercalate]
  refine intercalate_induction (P := fun cs => ∀ c ∈ cs, c ≠ '\n' ∧ c ≠ '\\') ?_ ?_ between ?_
  · intro c member; cases member
  · intro xs ys hx hy c member
    exact (List.mem_append.mp member).elim (hx c) (hy c)
  · intro part member
    obtain ⟨s, there, rfl⟩ := List.mem_map.mp member
    exact each s there

theorem Plain.of_subset {s t : String} (plain : Plain s) (inside : ∀ c ∈ t.toList, c ∈ s.toList) :
    Plain t :=
  fun c member => plain c (inside c member)

end ImageRecipe.Text
