import ImageRecipe.Dockerfile.KeyValue

/-!
How a value stands behind its key. Escaping is said character by character, and once more by what
a reader finds who knows only that a backslash takes the next character: no quote inside ends the
value, the last one does, and what is left without the backslashes is the value.
-/
namespace ImageRecipe.KeyValue

def NeedsQuotes (value : List Char) : Prop :=
  value = [] ∨ ∃ c ∈ value, c = ' ' ∨ c = '"' ∨ c = '\\' ∨ c = '\n'

def Enclosed (rest : List Char) : Prop := ∃ inner, rest = '"' :: inner ++ ['"']

/-- A value and what stands for it between the quotes: one backslash more in front of each double
quote, backslash and newline, and nothing else. -/
inductive Escapes : List Char → List Char → Prop where
  | nil : Escapes [] []
  | escaped {c : Char} {value inner : List Char} : c = '"' ∨ c = '\\' ∨ c = '\n' →
      Escapes value inner → Escapes (c :: value) ('\\' :: c :: inner)
  | plain {c : Char} {value inner : List Char} : c ≠ '"' → c ≠ '\\' → c ≠ '\n' →
      Escapes value inner → Escapes (c :: value) (c :: inner)

/-- Whether the characters end with a backslash that takes the next one. That is a backslash that is
not taken itself. -/
def takesNext (cs : List Char) : Bool :=
  cs.foldl (fun taken c => !taken && c = '\\') false

def withoutEscapes (taken : Bool) : List Char → List Char
  | [] => []
  | c :: cs => if !taken && c = '\\' then withoutEscapes true cs else c :: withoutEscapes false cs

/-- The value that the characters behind an equals sign stand for. -/
def unescape : List Char → List Char
  | '"' :: tail =>
    if tail.getLast? = some '"' then withoutEscapes false tail.dropLast else '"' :: tail
  | rest => rest

structure Quoting (value rest : List Char) : Prop where
  enclosed : Enclosed rest ↔ NeedsQuotes value
  verbatim : ¬ Enclosed rest → rest = value
  escapes : ∀ inner, rest = '"' :: inner ++ ['"'] → Escapes value inner
  /-- Every quote inside is taken by a backslash. -/
  taken : ∀ inner front back, rest = '"' :: inner ++ ['"'] → inner = front ++ '"' :: back →
    takesNext front = true
  /-- The quote at the end is not. -/
  closed : ∀ inner, rest = '"' :: inner ++ ['"'] → takesNext inner = false

variable {c : Char} {value inner cs : List Char}

theorem isEscaped_iff : isEscaped c = true ↔ c = '"' ∨ c = '\\' ∨ c = '\n' := by
  simp [isEscaped, or_assoc]

theorem isQuoted_iff : isQuoted c = true ↔ c = ' ' ∨ c = '"' ∨ c = '\\' ∨ c = '\n' := by
  simp [isQuoted, isEscaped_iff]

theorem needsQuotes_iff : NeedsQuotes value ↔ (value.isEmpty || value.any isQuoted) = true := by
  simp [NeedsQuotes, isQuoted_iff]

theorem escapes_escape (value : List Char) : Escapes value (escape value) := by
  induction value with
  | nil => exact .nil
  | cons c value ih =>
    rw [escape, List.flatMap_cons, ← escape]
    by_cases special : isEscaped c = true
    · rw [if_pos special]
      exact .escaped (isEscaped_iff.mp special) ih
    · rw [if_neg special]
      rw [isEscaped_iff, not_or, not_or] at special
      exact .plain special.1 special.2.1 special.2.2 ih

theorem takesNext_pair (c : Char) (cs : List Char) :
    takesNext ('\\' :: c :: cs) = takesNext cs := rfl

theorem takesNext_cons (plain : c ≠ '\\') (cs : List Char) :
    takesNext (c :: cs) = takesNext cs := by
  simp [takesNext, plain]

theorem Escapes.closed (escapes : Escapes value inner) : takesNext inner = false := by
  induction escapes with
  | nil => rfl
  | escaped _ _ ih => exact ih
  | plain _ notBackslash _ _ ih => rwa [takesNext_cons notBackslash]

theorem Escapes.taken (escapes : Escapes value inner) {front back : List Char}
    (split : inner = front ++ '"' :: back) : takesNext front = true := by
  induction escapes generalizing front with
  | nil => simp at split
  | @escaped c value inner special _ ih =>
    -- The front is empty, ends with the added backslash, or reaches past the pair.
    match front, split with
    | [], split => cases split
    | [_], split =>
      obtain ⟨rfl, _⟩ := List.cons.inj split
      rfl
    | _ :: _ :: front, split =>
      obtain ⟨rfl, rest⟩ := List.cons.inj split
      rw [takesNext_pair]
      exact ih (List.cons.inj rest).2
  | @plain c value inner notQuote notBackslash _ _ ih =>
    cases front with
    | nil => exact absurd (List.cons.inj split).1 notQuote
    | cons d front =>
      obtain ⟨rfl, rest⟩ := List.cons.inj split
      rw [takesNext_cons notBackslash]
      exact ih rest

theorem Escapes.withoutEscapes (escapes : Escapes value inner) :
    withoutEscapes false inner = value := by
  induction escapes with
  | nil => rfl
  | @escaped c value inner _ _ ih =>
    have pair : KeyValue.withoutEscapes false ('\\' :: c :: inner) =
        c :: KeyValue.withoutEscapes false inner := rfl
    rw [pair, ih]
  | plain _ notBackslash _ _ ih => simp [KeyValue.withoutEscapes, notBackslash, ih]

theorem inner_inj {front back : List Char} (same : '"' :: front ++ ['"'] = '"' :: back ++ ['"']) :
    front = back :=
  List.append_cancel_right (List.cons.inj same).2

theorem free_of_bare (bare : ¬ NeedsQuotes value) :
    ∀ c ∈ value, c ≠ ' ' ∧ c ≠ '"' ∧ c ≠ '\\' ∧ c ≠ '\n' := by
  intro c member
  have ordinary : ¬ (c = ' ' ∨ c = '"' ∨ c = '\\' ∨ c = '\n') := fun special =>
    bare (.inr ⟨c, member, special⟩)
  simpa only [not_or] using ordinary

theorem not_enclosed (bare : ¬ NeedsQuotes value) : ¬ Enclosed value := by
  rintro ⟨inner, rfl⟩
  exact (free_of_bare bare '"' List.mem_cons_self).2.1 rfl

theorem encode_of_needsQuotes (needs : NeedsQuotes value) :
    encode value = '"' :: escape value ++ ['"'] :=
  if_pos (needsQuotes_iff.mp needs)

theorem encode_of_bare (bare : ¬ NeedsQuotes value) : encode value = value :=
  if_neg (mt needsQuotes_iff.mpr bare)

theorem quoting_encode (value : List Char) : Quoting value (encode value) := by
  by_cases needs : NeedsQuotes value
  · rw [encode_of_needsQuotes needs]
    have enclosed : Enclosed ('"' :: escape value ++ ['"']) := ⟨_, rfl⟩
    have escapes := escapes_escape value
    constructor
    · exact iff_of_true enclosed needs
    · exact fun bare => absurd enclosed bare
    · exact fun inner same => inner_inj same ▸ escapes
    · exact fun inner front back same split => escapes.taken ((inner_inj same).trans split)
    · exact fun inner same => inner_inj same ▸ escapes.closed
  · rw [encode_of_bare needs]
    have bare := not_enclosed needs
    have never {inner : List Char} (same : value = '"' :: inner ++ ['"']) : False := bare ⟨_, same⟩
    constructor
    · exact iff_of_false bare needs
    · exact fun _ => rfl
    · exact fun inner same => (never same).elim
    · exact fun inner front back same _ => (never same).elim
    · exact fun inner same => (never same).elim

theorem unescape_enclosed (inner : List Char) :
    unescape ('"' :: inner ++ ['"']) = withoutEscapes false inner := by
  simp [unescape]

theorem unescape_of_not_enclosed {rest : List Char} (bare : ¬ Enclosed rest) :
    unescape rest = rest := by
  unfold unescape
  split
  · rename_i tail
    split
    · rename_i closed
      obtain ⟨inner, rfl⟩ := List.getLast?_eq_some_iff.mp closed
      exact absurd ⟨inner, rfl⟩ bare
    · rfl
  · rfl

theorem unescape_encode (value : List Char) : unescape (encode value) = value := by
  by_cases needs : NeedsQuotes value
  · rw [encode_of_needsQuotes needs, unescape_enclosed]
    exact (escapes_escape value).withoutEscapes
  · rw [encode_of_bare needs, unescape_of_not_enclosed (not_enclosed needs)]

theorem encode_injective : Function.Injective encode :=
  Function.LeftInverse.injective unescape_encode

theorem token_eq_iff {key value other : String} :
    token key value = token key other ↔ value = other := by
  constructor
  · intro same
    have rest := (String.append_right_inj _).mp same
    rw [String.ofList_inj] at rest
    exact String.toList_inj.mp (encode_injective rest)
  · rintro rfl
    rfl

/-- A token is the key, an equals sign and the value, quoted as its characters ask for. Without its
quotes and the backslashes that were added it is the value again; so one key has a token of its own
for every value. -/
theorem token_quoting (key value : String) :
    (∃ rest, token key value = key ++ "=" ++ rest ∧ Quoting value.toList rest.toList ∧
      unescape rest.toList = value.toList) ∧
    ∀ other, token key value = token key other ↔ value = other := by
  refine ⟨⟨String.ofList (encode value.toList), rfl, ?_, ?_⟩, fun _ => token_eq_iff⟩
  · rw [String.toList_ofList]
    exact quoting_encode value.toList
  · rw [String.toList_ofList]
    exact unescape_encode value.toList

example : token "PATH" "C:\\" = "PATH=\"C:\\\\\"" := by decide

end ImageRecipe.KeyValue
