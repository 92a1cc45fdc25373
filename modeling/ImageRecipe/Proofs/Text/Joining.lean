import ImageRecipe.Text.Trim

namespace ImageRecipe.Text

/-- Cuts where a separator begins. `skip` is how much of a separator is still to be passed over. -/
def cutFrom (separator : List Char) : Nat → List Char → List (List Char)
  | _, [] => [[]]
  | skip + 1, _ :: cs => cutFrom separator skip cs
  | 0, c :: cs =>
    if separator <+: c :: cs then [] :: cutFrom separator (separator.length - 1) cs
    else (cutFrom separator 0 cs).modifyHead (c :: ·)

def segments (separator s : String) : List String :=
  (cutFrom separator.toList 0 s.toList).map String.ofList

/-- No separator begins in a part, not even one that ends in the separator behind the part. -/
def Clear (separator part : List Char) : Prop :=
  ∀ back, back ≠ [] → back <:+ part → ¬ separator <+: back ++ separator

theorem clear_of_notMem {c : Char} {separator part : List Char} (absent : c ∉ part) :
    Clear (c :: separator) part := by
  intro back filled inside begins
  cases back with
  | nil => exact filled rfl
  | cons d back =>
    rw [List.cons_append, List.cons_prefix_cons] at begins
    exact absent (begins.1 ▸ inside.mem List.mem_cons_self)

variable {separator part : List Char}

theorem Clear.tail {c : Char} (clear : Clear separator (c :: part)) : Clear separator part :=
  fun back filled inside => clear back filled (inside.trans (List.suffix_cons c part))

theorem Clear.head {c : Char} (clear : Clear separator (c :: part)) (rest : List Char) :
    ¬ separator <+: c :: (part ++ (separator ++ rest)) := by
  intro begins
  apply clear (c :: part) (List.cons_ne_nil c part) List.suffix_rfl
  have whole : c :: part ++ separator <+: c :: (part ++ (separator ++ rest)) := by
    rw [← List.cons_append, ← List.append_assoc]
    exact List.prefix_append _ _
  have short : separator.length ≤ (c :: part ++ separator).length := by
    rw [List.length_append]
    exact Nat.le_add_left _ _
  exact List.prefix_of_prefix_length_le begins whole short

theorem cutFrom_skip (separator xs rest : List Char) :
    cutFrom separator xs.length (xs ++ rest) = cutFrom separator 0 rest := by
  induction xs with
  | nil => rfl
  | cons x xs ih => rw [List.length_cons, List.cons_append, cutFrom, ih]

/-- A clear part in front of a separator is the first that is cut off. -/
theorem cutFrom_clear {rest : List Char} (filled : separator ≠ []) (clear : Clear separator part) :
    cutFrom separator 0 (part ++ (separator ++ rest)) = part :: cutFrom separator 0 rest := by
  -- As long as a character of the part is left, the separator begins further on.
  induction part with
  | nil =>
    cases separator with
    | nil => exact absurd rfl filled
    | cons c separator =>
      have here : c :: separator <+: c :: (separator ++ rest) := by
        rw [← List.cons_append]
        exact List.prefix_append _ _
      rw [List.nil_append, List.cons_append, cutFrom, if_pos here, List.length_cons,
        Nat.add_sub_cancel, cutFrom_skip]
  | cons c part ih =>
    rw [List.cons_append, cutFrom, if_neg (clear.head rest), ih clear.tail, List.modifyHead_cons]

theorem cutFrom_last (clear : Clear separator part) : cutFrom separator 0 part = [part] := by
  induction part with
  | nil => rfl
  | cons c part ih =>
    have apart : ¬ separator <+: c :: part := by
      intro begins
      exact clear (c :: part) (List.cons_ne_nil c part) List.suffix_rfl
        (begins.trans (List.prefix_append _ _))
    rw [cutFrom, if_neg apart, ih clear.tail, List.modifyHead_cons]

theorem cutFrom_intercalate {parts : List (List Char)} (filled : separator ≠ [])
    (any : parts ≠ []) (clear : ∀ part ∈ parts, Clear separator part) :
    cutFrom separator 0 (separator.intercalate parts) = parts := by
  induction parts with
  | nil => exact absurd rfl any
  | cons part parts ih =>
    have here := clear part List.mem_cons_self
    cases parts with
    | nil => rw [List.intercalate_singleton, cutFrom_last here]
    | cons next parts =>
      have later := ih (List.cons_ne_nil next parts) fun other member =>
        clear other (.tail part member)
      rw [List.intercalate_cons_cons, List.append_assoc, cutFrom_clear filled here, later]

/-- Clear parts come back from the text that joins them. -/
theorem segments_intercalate {separator : String} {parts : List String} (filled : separator ≠ "")
    (any : parts ≠ []) (clear : ∀ part ∈ parts, Clear separator.toList part.toList) :
    segments separator (separator.intercalate parts) = parts := by
  rw [segments, String.toList_intercalate, cutFrom_intercalate, List.map_map, ofList_comp_toList,
    List.map_id]
  · intro empty
    exact filled (String.toList_eq_nil_iff.mp empty)
  · rwa [ne_eq, List.map_eq_nil_iff]
  · intro part member
    obtain ⟨text, there, rfl⟩ := List.mem_map.mp member
    exact clear text there

theorem cutFrom_ne_nil (separator : List Char) (skip : Nat) (cs : List Char) :
    cutFrom separator skip cs ≠ [] := by
  induction cs generalizing skip with
  | nil => simp [cutFrom]
  | cons c cs ih =>
    cases skip with
    | zero =>
      rw [cutFrom]
      split
      · exact List.cons_ne_nil _ _
      · rw [ne_eq, List.modifyHead_eq_nil_iff]
        exact ih 0
    | succ skip => exact ih skip

theorem intercalate_cutFrom (filled : separator ≠ []) (skip : Nat) (cs : List Char) :
    separator.intercalate (cutFrom separator skip cs) = cs.drop skip := by
  induction cs generalizing skip with
  | nil => simp [cutFrom]
  | cons c cs ih =>
    cases skip with
    | zero =>
      rw [cutFrom, List.drop_zero]
      split
      · rename_i begins
        -- The rest of the separator is skipped, and the joint puts the whole of it back.
        obtain ⟨rest, whole⟩ := begins
        cases separator with
        | nil => exact absurd rfl filled
        | cons d separator =>
          have behind : cs.drop separator.length = rest := by
            rw [← (List.cons.inj whole).2]
            exact List.drop_left
          rw [List.intercalate_cons_of_ne_nil (cutFrom_ne_nil _ _ _), ih, List.nil_append,
            List.length_cons, Nat.add_sub_cancel, behind, whole]
      · have later := ih 0
        cases cut : cutFrom separator 0 cs with
        | nil => exact absurd cut (cutFrom_ne_nil separator 0 cs)
        | cons part parts =>
          rw [cut, List.drop_zero] at later
          rw [List.modifyHead_cons, List.intercalate_cons_cons_left, later]
    | succ skip => rw [cutFrom, ih, List.drop_succ_cons]

theorem intercalate_segments {separator : String} (filled : separator ≠ "") (s : String) :
    separator.intercalate (segments separator s) = s := by
  rw [← String.toList_inj, String.toList_intercalate, segments, List.map_map, toList_comp_ofList,
    List.map_id, intercalate_cutFrom, List.drop_zero]
  exact fun empty => filled (String.toList_eq_nil_iff.mp empty)

def enclosed? (opening closing s : String) : Option String :=
  (rest? opening.toList s.toList).bind fun cs =>
    (rest? closing.toList.reverse cs.reverse).map fun inner => String.ofList inner.reverse

theorem enclosed?_eq_some_iff {opening closing inner s : String} :
    enclosed? opening closing s = some inner ↔ s = opening ++ inner ++ closing := by
  constructor
  · intro found
    obtain ⟨cs, front, rest⟩ := Option.bind_eq_some_iff.mp found
    obtain ⟨back, behind, rfl⟩ := Option.map_eq_some_iff.mp rest
    rw [rest?_eq_some_iff] at front behind
    have turned : cs = back.reverse ++ closing.toList := by
      rw [← List.reverse_inj, behind, List.reverse_append, List.reverse_reverse]
    rw [← String.toList_inj, front, turned]
    simp
  · rintro rfl
    have front : rest? opening.toList (opening ++ inner ++ closing).toList =
        some (inner.toList ++ closing.toList) := by
      rw [rest?_eq_some_iff, String.toList_append, String.toList_append, List.append_assoc]
    have back : rest? closing.toList.reverse (inner.toList ++ closing.toList).reverse =
        some inner.toList.reverse := by
      rw [rest?_eq_some_iff, List.reverse_append]
    rw [enclosed?, front, Option.bind_some, back, Option.map_some, List.reverse_reverse,
      String.ofList_toList]

end ImageRecipe.Text
