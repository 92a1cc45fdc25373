import ImageRecipe.Dockerfile.Instruction
import ImageRecipe.Proofs.Dockerfile.Quoting

/-!
Reading the arguments of `ENV` and `LABEL` back. The reader knows nothing of how tokens are written:
it goes through the characters once, with quotes and escapes as its only state, and what it makes of
written entries are the entries.
-/
namespace ImageRecipe.KeyValue

/-- Where the reader stands. -/
inductive Reading where
  | bare
  | quoted
  | escaped
deriving DecidableEq

/-- Cuts at spaces outside double quotes and drops the quotes. Between quotes the character behind a
backslash stands for itself. `token` is what the token holds already. -/
def cutTokens (reading : Reading) (token : List Char) : List Char → List (List Char)
  | [] => [token]
  | c :: cs =>
    match reading with
    | .bare =>
      if c = ' ' then token :: cutTokens .bare [] cs
      else if c = '"' then cutTokens .quoted token cs
      else cutTokens .bare (token ++ [c]) cs
    | .quoted =>
      if c = '\\' then cutTokens .escaped token cs
      else if c = '"' then cutTokens .bare token cs
      else cutTokens .quoted (token ++ [c]) cs
    | .escaped => cutTokens .quoted (token ++ [c]) cs

def readEntry (token : List Char) : String × String :=
  (String.ofList (token.takeWhile (· ≠ '=')), String.ofList ((token.dropWhile (· ≠ '=')).drop 1))

def readEntries (args : String) : List (String × String) :=
  (cutTokens .bare [] args.toList).map readEntry

/-- A key that stands in a token as it is. A backslash or a newline in it means nothing to the
reader. -/
def Readable (key : String) : Prop := ∀ c ∈ key.toList, c ≠ ' ' ∧ c ≠ '=' ∧ c ≠ '"'

instance (key : String) : Decidable (Readable key) :=
  List.decidableBAll (fun c => c ≠ ' ' ∧ c ≠ '=' ∧ c ≠ '"') key.toList

theorem cutTokens_bare {cs : List Char} (token rest : List Char)
    (free : ∀ c ∈ cs, c ≠ ' ' ∧ c ≠ '"') :
    cutTokens .bare token (cs ++ rest) = cutTokens .bare (token ++ cs) rest := by
  induction cs generalizing token with
  | nil => simp
  | cons c cs ih =>
    have here := free c List.mem_cons_self
    have later := ih (token ++ [c]) fun d member => free d (.tail c member)
    rw [List.cons_append, cutTokens]
    simp only [if_neg here.1, if_neg here.2, later, List.append_assoc, List.singleton_append]

/-- An escaped value is read up to the quote behind it and not beyond. -/
theorem cutTokens_escapes {value inner : List Char} (escapes : Escapes value inner)
    (token rest : List Char) :
    cutTokens .quoted token (inner ++ '"' :: rest) = cutTokens .bare (token ++ value) rest := by
  induction escapes generalizing token with
  | nil => simp [cutTokens]
  | @escaped c value inner _ _ ih =>
    have later := ih (token ++ [c])
    rw [List.append_assoc, List.singleton_append] at later
    rw [List.cons_append, List.cons_append, cutTokens]
    simp only [if_true]
    rw [cutTokens]
    exact later
  | @plain c value inner notQuote notBackslash _ _ ih =>
    have later := ih (token ++ [c])
    rw [List.append_assoc, List.singleton_append] at later
    rw [List.cons_append, cutTokens]
    simp only [if_neg notBackslash, if_neg notQuote]
    exact later

theorem cutTokens_encode (token value rest : List Char) :
    cutTokens .bare token (encode value ++ rest) = cutTokens .bare (token ++ value) rest := by
  by_cases needs : NeedsQuotes value
  · have cut : '"' :: escape value ++ ['"'] ++ rest = '"' :: (escape value ++ '"' :: rest) := by
      simp
    rw [encode_of_needsQuotes needs, cut, cutTokens]
    exact cutTokens_escapes (escapes_escape value) token rest
  · rw [encode_of_bare needs]
    apply cutTokens_bare
    intro c member
    obtain ⟨notSpace, notQuote, _⟩ := free_of_bare needs c member
    exact ⟨notSpace, notQuote⟩

theorem cutTokens_token {key : String} (value : String) (rest : List Char)
    (readable : Readable key) :
    cutTokens .bare [] ((token key value).toList ++ rest) =
      cutTokens .bare (key.toList ++ '=' :: value.toList) rest := by
  have front : ∀ c ∈ key.toList ++ ['='], c ≠ ' ' ∧ c ≠ '"' := by
    intro c member
    rcases List.mem_append.mp member with inside | sign
    · exact ⟨(readable c inside).1, (readable c inside).2.2⟩
    · rw [List.mem_singleton.mp sign]
      decide
  have written : (token key value).toList ++ rest =
      (key.toList ++ ['=']) ++ (encode value.toList ++ rest) := by
    simp [token]
  rw [written, cutTokens_bare [] _ front, cutTokens_encode]
  simp

theorem readEntry_eq {key : String} (value : String) (readable : Readable key) :
    readEntry (key.toList ++ '=' :: value.toList) = (key, value) := by
  have inside : ∀ c ∈ key.toList, decide (c ≠ '=') = true :=
    fun c member => decide_eq_true (readable c member).2.1
  rw [readEntry, List.takeWhile_append_of_pos inside, List.dropWhile_append_of_pos inside]
  simp

theorem cutTokens_tokens {entries : List (String × String)} (filled : entries ≠ [])
    (readable : ∀ key ∈ entries.map Prod.fst, Readable key) :
    cutTokens .bare [] (" ".toList.intercalate ((tokens entries).map String.toList)) =
      entries.map fun entry => entry.1.toList ++ '=' :: entry.2.toList := by
  induction entries with
  | nil => exact absurd rfl filled
  | cons entry entries ih =>
    have here := readable entry.1 List.mem_cons_self
    cases entries with
    | nil =>
      have single := cutTokens_token entry.2 [] here
      rw [List.append_nil] at single
      simp only [tokens, List.map_cons, List.map_nil, List.intercalate_singleton]
      rw [single, cutTokens]
    | cons next entries =>
      have later := ih (by simp) fun key member => readable key (.tail _ member)
      have space : " ".toList = [' '] := rfl
      simp only [tokens, List.map_cons] at later ⊢
      rw [List.intercalate_cons_cons, List.append_assoc, cutTokens_token entry.2 _ here, space,
        List.singleton_append, cutTokens]
      simp only [if_true]
      rw [← space, later]

theorem readEntries_tokens {entries : List (String × String)} (filled : entries ≠ [])
    (readable : ∀ key ∈ entries.map Prod.fst, Readable key) :
    readEntries (" ".intercalate (tokens entries)) = entries := by
  rw [readEntries, String.toList_intercalate, cutTokens_tokens filled readable, List.map_map]
  have same : ∀ entry ∈ entries,
      (readEntry ∘ fun entry => entry.1.toList ++ '=' :: entry.2.toList) entry = entry :=
    fun entry member => readEntry_eq entry.2 (readable entry.1 (List.mem_map_of_mem member))
  rw [List.map_congr_left same, List.map_id']

example : readEntries "A=\"x \\\"y\" B=c=d E=\"\"" = [("A", "x \"y"), ("B", "c=d"), ("E", "")] := by
  decide

end ImageRecipe.KeyValue
