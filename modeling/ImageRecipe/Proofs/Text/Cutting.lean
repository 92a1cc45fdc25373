import Mathlib.Data.List.DropRight
import ImageRecipe.Text.Blank

/-!
What is cut out of a text has no character that the text does not have, and what is trimmed begins
and ends with a visible one. Pieces are known by being free of the separator and joining to the
text; what loses its end is known by what is gone and by its last character.
-/
namespace ImageRecipe.Text

variable {p : Char → Bool} {c : Char} {s t : String}

theorem flatten_splitOnP (p : Char → Bool) (xs : List Char) :
    (xs.splitOnP p).flatten = xs.filter (!p ·) := by
  induction xs with
  | nil => rfl
  | cons x xs ih =>
    rw [List.splitOnP_cons_eq_if_modifyHead]
    by_cases cuts : p x = true
    · simp [cuts, ih]
    · cases pieces : xs.splitOnP p with
      | nil => exact absurd pieces (List.splitOnP_ne_nil p xs)
      | cons first others =>
        rw [pieces, List.flatten_cons] at ih
        simp [cuts, ← ih]

theorem of_mem_splitOnP {xs piece : List Char} (cut : piece ∈ xs.splitOnP p)
    (member : c ∈ piece) : c ∈ xs ∧ p c = false := by
  have kept : c ∈ (xs.splitOnP p).flatten := List.mem_flatten_of_mem cut member
  rw [flatten_splitOnP, List.mem_filter] at kept
  simpa using kept

theorem mem_of_mem_dropTrailing {cs : List Char} (member : c ∈ dropTrailing p cs) : c ∈ cs := by
  have inside : c ∈ cs.reverse.dropWhile p := List.mem_reverse.mp member
  exact List.mem_reverse.mp ((List.dropWhile_suffix p).mem inside)

theorem mem_of_mem_dropEnd (member : c ∈ (dropEnd p s).toList) : c ∈ s.toList := by
  rw [toList_dropEnd] at member
  exact mem_of_mem_dropTrailing member

theorem mem_of_mem_pieces {separator : Char} (cut : t ∈ pieces separator s)
    (member : c ∈ t.toList) : c ∈ s.toList := by
  obtain ⟨piece, there, rfl⟩ := List.mem_map.mp cut
  rw [String.toList_ofList] at member
  exact (of_mem_splitOnP there member).1

theorem pieces_append {separator : Char} {middle : String} (single : middle.toList = [separator])
    (s t : String) :
    pieces separator (s ++ middle ++ t) = pieces separator s ++ pieces separator t := by
  have chars : (s ++ middle ++ t).toList = s.toList ++ separator :: t.toList := by
    rw [String.toList_append, String.toList_append, single, List.append_assoc]
    rfl
  have cut : (s.toList ++ separator :: t.toList).splitOn separator =
      s.toList.splitOn separator ++ t.toList.splitOn separator :=
    List.splitOnP_append_cons s.toList t.toList (beq_self_eq_true separator)
  rw [pieces, chars, cut, List.map_append]
  rfl

theorem pieces_of_notMem {separator : Char} (absent : separator ∉ s.toList) :
    pieces separator s = [s] := by
  rw [pieces, List.splitOn_eq_singleton absent, List.map_singleton, String.ofList_toList]

theorem mem_of_mem_words (cut : t ∈ words s) (member : c ∈ t.toList) : c ∈ s.toList := by
  obtain ⟨word, there, rfl⟩ := List.mem_map.mp cut
  rw [String.toList_ofList] at member
  exact (of_mem_splitOnP (List.mem_filter.mp there).1 member).1

theorem pieces_eq_iff {separator : Char} {between : String} (single : between.toList = [separator])
    {parts : List String} :
    pieces separator s = parts ↔
      parts ≠ [] ∧ (∀ part ∈ parts, separator ∉ part.toList) ∧ between.intercalate parts = s := by
  constructor
  · rintro rfl
    refine ⟨?_, ?_, ?_⟩
    · rw [pieces, ne_eq, List.map_eq_nil_iff]
      exact List.splitOn_ne_nil separator s.toList
    · intro part cut inside
      obtain ⟨piece, there, rfl⟩ := List.mem_map.mp cut
      rw [String.toList_ofList] at inside
      exact absurd (of_mem_splitOnP there inside).2 (by simp)
    · rw [← String.toList_inj, String.toList_intercalate, single, pieces, List.map_map,
        toList_comp_ofList, List.map_id, List.intercalate_splitOn]
  · rintro ⟨filled, free, rfl⟩
    rw [pieces, String.toList_intercalate, single, List.splitOn_intercalate, List.map_map]
    · rw [ofList_comp_toList, List.map_id]
    · intro piece member
      obtain ⟨part, there, rfl⟩ := List.mem_map.mp member
      exact free part there
    · rwa [ne_eq, List.map_eq_nil_iff]

/-- Joined by the separator, texts are cut where they were joined and where they are cut
themselves. -/
theorem pieces_intercalate {separator : Char} {between : String}
    (single : between.toList = [separator]) {parts : List String} (filled : parts ≠ []) :
    pieces separator (between.intercalate parts) = parts.flatMap (pieces separator) := by
  induction parts with
  | nil => exact absurd rfl filled
  | cons part parts ih =>
    cases parts with
    | nil => simp
    | cons next parts =>
      have later := ih (List.cons_ne_nil next parts)
      rw [String.intercalate_cons_cons, pieces_append single, later]
      rfl

theorem flatMap_pieces_of_notMem {separator : Char} {parts : List String}
    (absent : ∀ part ∈ parts, separator ∉ part.toList) :
    parts.flatMap (pieces separator) = parts := by
  induction parts with
  | nil => rfl
  | cons part parts ih =>
    rw [List.forall_mem_cons] at absent
    simp [pieces_of_notMem absent.1, ih absent.2]

theorem pieces_inj {separator : Char} (same : pieces separator s = pieces separator t) : s = t := by
  have single : (String.ofList [separator]).toList = [separator] := String.toList_ofList
  have joined (u : String) : (String.ofList [separator]).intercalate (pieces separator u) = u :=
    ((pieces_eq_iff single).mp rfl).2.2
  rw [← joined s, same, joined t]

theorem words_eq_nil_iff : words s = [] ↔ ∀ c ∈ s.toList, isBlank c = true := by
  rw [words, List.map_eq_nil_iff]
  have empty : (s.toList.splitOnP isBlank).filter (!·.isEmpty) = [] ↔
      (s.toList.splitOnP isBlank).flatten = [] := by
    rw [List.filter_eq_nil_iff, List.flatten_eq_nil_iff]
    simp
  rw [empty, flatten_splitOnP, List.filter_eq_nil_iff]
  simp

theorem head?_dropWhile {cs : List Char} (first : (cs.dropWhile p).head? = some c) :
    p c = false := by
  have kept := List.head?_dropWhile_not p cs
  rwa [first] at kept

/-- A text without the run of characters at its end that satisfy `p`: nothing else is gone, and
the last character that is left is none of them. -/
structure Stripped (p : Char → Bool) (s t : String) : Prop where
  cut : ∃ tail, s.toList = t.toList ++ tail ∧ ∀ c ∈ tail, p c = true
  ended : ∀ c, t.toList.getLast? = some c → p c = false

theorem stripped_dropEnd (p : Char → Bool) (s : String) : Stripped p s (dropEnd p s) := by
  constructor
  · refine ⟨s.toList.rtakeWhile p, ?_, fun c member => List.mem_rtakeWhile_imp member⟩
    rw [toList_dropEnd]
    exact List.rdropWhile_append_rtakeWhile.symm
  · intro c last
    rw [toList_dropEnd, dropTrailing, List.getLast?_reverse] at last
    exact head?_dropWhile last

theorem Stripped.eq_dropEnd (stripped : Stripped p s t) : t = dropEnd p s := by
  -- Read from the back, the run comes first, and behind it is a character not in the run.
  obtain ⟨tail, split, dropped⟩ := stripped.cut
  have gone : ∀ c ∈ tail.reverse, p c = true :=
    fun c member => dropped c (List.mem_reverse.mp member)
  have kept : t.toList.reverse.dropWhile p = t.toList.reverse := by
    cases last : t.toList.reverse with
    | nil => rfl
    | cons c rest =>
      have ended : t.toList.getLast? = some c := by
        rw [List.getLast?_eq_head?_reverse, last, List.head?_cons]
      rw [List.dropWhile_cons_of_neg]
      rw [stripped.ended c ended]
      decide
  rw [← String.toList_inj, toList_dropEnd, dropTrailing, split, List.reverse_append,
    List.dropWhile_append_of_pos gone, kept, List.reverse_reverse]

theorem stripped_iff : Stripped p s t ↔ t = dropEnd p s := by
  constructor
  · exact Stripped.eq_dropEnd
  · rintro rfl
    exact stripped_dropEnd p s

theorem dropEnd_dropEnd (p : Char → Bool) (s : String) : dropEnd p (dropEnd p s) = dropEnd p s :=
  (Stripped.eq_dropEnd ⟨⟨[], by simp, by simp⟩, (stripped_dropEnd p s).ended⟩).symm

def Trimmed (s : String) : Prop :=
  ∀ c, s.toList.head? = some c ∨ s.toList.getLast? = some c → isBlank c = false

theorem trim_trimmed (s : String) : Trimmed (trim s) := by
  rintro c (first | last)
  · rw [trim, toList_dropEnd, toList_dropStart] at first
    have start : dropTrailing isBlank (s.toList.dropWhile isBlank) <+:
        s.toList.dropWhile isBlank := by
      rw [dropTrailing, ← List.reverse_suffix, List.reverse_reverse]
      exact List.dropWhile_suffix isBlank
    obtain ⟨rest, same⟩ := start
    have kept : (s.toList.dropWhile isBlank).head? = some c := by
      rw [← same, List.head?_append, first]
      rfl
    exact head?_dropWhile kept
  · exact (stripped_dropEnd isBlank (dropStart isBlank s)).ended c last

/-- A text without the blank characters at its ends: nothing else is gone, and what is left has no
blank end. -/
structure TrimmedTo (s t : String) : Prop where
  cut : ∃ front tail, s.toList = front ++ t.toList ++ tail ∧ ∀ c ∈ front ++ tail, isBlank c = true
  ends : Trimmed t

theorem trimmedTo_trim (s : String) : TrimmedTo s (trim s) := by
  constructor
  · obtain ⟨tail, split, blank⟩ := (stripped_dropEnd isBlank (dropStart isBlank s)).cut
    refine ⟨s.toList.takeWhile isBlank, tail, ?_, ?_⟩
    · rw [toList_dropStart] at split
      rw [List.append_assoc, trim, ← split, List.takeWhile_append_dropWhile]
    · intro c member
      rcases List.mem_append.mp member with front | behind
      · exact List.all_eq_true.mp List.all_takeWhile c front
      · exact blank c behind
  · exact trim_trimmed s

theorem TrimmedTo.stripped (trimmed : TrimmedTo s t) :
    Stripped isBlank (dropStart isBlank s) t := by
  obtain ⟨front, tail, split, blank⟩ := trimmed.cut
  rw [List.forall_mem_append] at blank
  refine ⟨?_, fun c last => trimmed.ends c (.inr last)⟩
  rw [toList_dropStart, split, List.append_assoc, List.dropWhile_append_of_pos blank.1]
  cases left : t.toList with
  | nil => exact ⟨[], by simpa using blank.2, by simp⟩
  | cons c cs =>
    have visible : isBlank c = false := trimmed.ends c (.inl (by rw [left, List.head?_cons]))
    exact ⟨tail, by simp [visible], blank.2⟩

theorem trimmedTo_iff : TrimmedTo s t ↔ t = trim s := by
  constructor
  · exact fun trimmed => trimmed.stripped.eq_dropEnd
  · rintro rfl
    exact trimmedTo_trim s

theorem Trimmed.isBlankText_iff (trimmed : Trimmed s) : isBlankText s = true ↔ s = "" := by
  rw [isBlankText, List.all_eq_true, ← String.toList_eq_nil_iff]
  cases chars : s.toList with
  | nil => simp
  | cons c cs =>
    have visible : isBlank c = false := trimmed c (.inl (by rw [chars, List.head?_cons]))
    simp [visible]

end ImageRecipe.Text
