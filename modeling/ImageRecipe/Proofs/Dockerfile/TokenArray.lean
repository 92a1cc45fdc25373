import ImageRecipe.Proofs.Dockerfile.Lines
import ImageRecipe.Proofs.Text.Joining

/-!
Token arrays read back. The reader takes the ends off and cuts at every quote, comma, quote; tokens
without quotes come back as they were, so that no two lists of them share an array. No tokens at all
are written like a single empty one, so the array of a blank shell tells of a token that the shell
does not have.
-/
namespace ImageRecipe

/-- The tokens that an array tells of. -/
def readArray? (array : String) : Option (List String) :=
  (Text.enclosed? "[\"" "\"]" array).map (Text.segments "\",\"")

/-- There are tokens, and none of them holds a quote. -/
structure Legible (tokens : List String) : Prop where
  any : tokens ≠ []
  unquoted : ∀ token ∈ tokens, '"' ∉ token.toList

variable {tokens others : List String} {array : String}

theorem readArray?_tokenArray (legible : Legible tokens) :
    readArray? (tokenArray tokens) = some tokens := by
  have clear : ∀ token ∈ tokens, Text.Clear "\",\"".toList token.toList :=
    fun token member => Text.clear_of_notMem (legible.unquoted token member)
  rw [readArray?, tokenArray, Text.enclosed?_eq_some_iff.mpr rfl, Option.map_some,
    Text.segments_intercalate (by decide) legible.any clear]

theorem eq_tokenArray_of_readArray? (read : readArray? array = some tokens) :
    array = tokenArray tokens := by
  obtain ⟨inner, ends, cut⟩ := Option.map_eq_some_iff.mp read
  rw [Text.enclosed?_eq_some_iff.mp ends, tokenArray, ← cut,
    Text.intercalate_segments (by decide)]

theorem readArray?_eq_some_iff (legible : Legible tokens) :
    readArray? array = some tokens ↔ array = tokenArray tokens := by
  constructor
  · exact eq_tokenArray_of_readArray?
  · rintro rfl
    exact readArray?_tokenArray legible

theorem tokenArray_inj (legible : Legible tokens) (otherLegible : Legible others) :
    tokenArray tokens = tokenArray others ↔ tokens = others := by
  rw [← readArray?_eq_some_iff otherLegible, readArray?_tokenArray legible, Option.some_inj]

example : tokenArray ["a\",\"b"] = tokenArray ["a", "b"] := by decide

theorem readArray?_nil : readArray? (tokenArray []) = some [""] := by decide

namespace Argument

theorem unquoted_tokens {a : Argument} (unquoted : ∀ s ∈ a.texts, '"' ∉ s.toList) :
    ∀ token ∈ a.tokens, '"' ∉ token.toList := by
  intro token member quoted
  cases a with
  | shell command =>
    exact unquoted command List.mem_cons_self (Text.mem_of_mem_words member quoted)
  | exec tokens => exact unquoted token member quoted

theorem readArray?_encodeTokens {a : Argument} (unquoted : ∀ s ∈ a.texts, '"' ∉ s.toList) :
    readArray? a.encodeTokens = some a.tokens ↔ a.tokens ≠ [] := by
  constructor
  · intro read none
    rw [encodeTokens, none, readArray?_nil] at read
    cases read
  · intro any
    exact readArray?_tokenArray ⟨any, unquoted_tokens unquoted⟩

/-- An argument that passes the check and has no tokens is a blank shell command. -/
theorem tokens_eq_nil_iff {a : Argument} (checked : a.check = .ok ()) :
    a.tokens = [] ↔
      ∃ command, a = .shell command ∧ ∀ c ∈ command.toList, Text.isBlank c = true := by
  cases a with
  | shell command => simp [tokens, Text.words_eq_nil_iff]
  | exec tokens =>
    cases tokens with
    | nil => cases checked
    | cons token tokens => simp [Argument.tokens]

end Argument

namespace Recipe

/-- The array behind `SHELL` gives back the tokens of the shell exactly if there are any. There are
none if the shell is a blank command, which passes every check; then the array tells of one token,
the empty text. -/
theorem render_shell (r : Recipe) (a : Argument) (text : String) (set : r.shell = some a)
    (unquoted : ∀ s ∈ a.texts, '"' ∉ s.toList) (rendered : r.render = .ok text) :
    ∃ instructions array, r.instructions = .ok instructions ∧
      text = dockerfileText instructions ∧
      instructions.filter (·.keyword = .shell) = [⟨.shell, [array]⟩] ∧
      (readArray? array = some a.tokens ↔ a.tokens ≠ []) ∧
      (a.tokens = [] ↔
        ∃ command, a = .shell command ∧ ∀ c ∈ command.toList, Text.isBlank c = true) ∧
      (a.tokens = [] → readArray? array = some [""]) := by
  obtain ⟨instructions, written, rfl⟩ := render_eq_ok_iff.mp rendered
  have holds : r.Section .shell (instructions.filter (·.keyword = .shell)) :=
    layout_section (by decide) (by decide) (instructions_layout written)
  have checked : a.check = .ok () := by
    obtain ⟨ports, accepted, _⟩ := map_eq_ok_iff.mp written
    obtain ⟨_, passed, _⟩ := bind_eq_ok_iff.mp accepted
    exact forM_eq_ok_iff.mp passed a (by simp [arguments, set])
  refine ⟨instructions, a.encodeTokens, written, rfl, holds.present a set,
    Argument.readArray?_encodeTokens unquoted, Argument.tokens_eq_nil_iff checked, ?_⟩
  intro none
  rw [Argument.encodeTokens, none, readArray?_nil]

def powershell : Recipe := { start with shell := some (.shell " pwsh\t-c ") }

theorem render_shell_powershell :
    ∃ text instructions array, powershell.render = .ok text ∧
      text = dockerfileText instructions ∧
      instructions.filter (·.keyword = .shell) = [⟨.shell, [array]⟩] ∧
      readArray? array = some ["pwsh", "-c"] := by
  obtain ⟨instructions, array, _, same, line, read, _⟩ :=
    render_shell powershell _ _ rfl (by decide) rfl
  exact ⟨_, instructions, array, rfl, same, line, read.mpr (by decide)⟩

def blankShell : Recipe := { start with shell := some (.shell "  ") }

theorem blankShell_token :
    ∃ instructions array, blankShell.instructions = .ok instructions ∧
      blankShell.render = .ok (dockerfileText instructions) ∧
      ⟨.shell, [array]⟩ ∈ instructions ∧ readArray? array = some [""] ∧
      ∃ a, blankShell.shell = some a ∧ (∀ s ∈ a.texts, '"' ∉ s.toList) ∧ a.tokens = [] :=
  ⟨_, "[\"\"]", rfl, rfl, by decide, by decide, _, rfl, by decide, by decide⟩

/-- The lists of tokens that a recipe has for the arrays behind a keyword. Behind `CMD` and
`ENTRYPOINT` a command for the shell is no array. -/
inductive Arrays (r : Recipe) : Keyword → List (List String) → Prop where
  | shell {a : Argument} : r.shell = some a → r.Arrays .shell [a.tokens]
  | volume : r.Arrays .volume ((r.volumePaths.filterMap volume?).map fun path => [path])
  | cmd {tokens : List String} : r.cmd = some (.exec tokens) → r.Arrays .cmd [tokens]
  | entrypoint {tokens : List String} :
      r.entrypoint = some (.exec tokens) → r.Arrays .entrypoint [tokens]

def argsOf (keyword : Keyword) (instructions : List Instruction) : List (List String) :=
  (instructions.filter (·.keyword = keyword)).map (·.args)

variable {r s : Recipe} {keyword otherKeyword : Keyword} {lists otherLists : List (List String)}
  {instructions otherInstructions : List Instruction}

theorem argsOf_eq (arrays : r.Arrays keyword lists) (written : r.instructions = .ok instructions) :
    argsOf keyword instructions = lists.map fun tokens => [tokenArray tokens] := by
  -- Copies and switches of user have no arrays, so the keyword keeps to its own section.
  have notUser : keyword ≠ .user := by rintro rfl; cases arrays
  have notCopy : keyword ≠ .copy := by rintro rfl; cases arrays
  have holds := layout_section notUser notCopy (instructions_layout written)
  cases arrays with
  | shell set | cmd set | entrypoint set =>
    rw [argsOf, holds.present _ set]
    rfl
  | volume =>
    rw [argsOf, holds, volumeInstructions, List.map_map, List.map_map]
    rfl

theorem read_argsOf (arrays : r.Arrays keyword lists) (legible : ∀ tokens ∈ lists, Legible tokens)
    (written : r.instructions = .ok instructions) :
    (argsOf keyword instructions).map (·.map readArray?) =
      lists.map fun tokens => [some tokens] := by
  rw [argsOf_eq arrays written, List.map_map]
  apply List.map_congr_left
  intro tokens member
  rw [Function.comp_apply, List.map_singleton, readArray?_tokenArray (legible tokens member)]

theorem argsOf_inj (arrays : r.Arrays keyword lists)
    (otherArrays : s.Arrays otherKeyword otherLists) (legible : ∀ tokens ∈ lists, Legible tokens)
    (otherLegible : ∀ tokens ∈ otherLists, Legible tokens)
    (written : r.instructions = .ok instructions)
    (otherWritten : s.instructions = .ok otherInstructions) :
    argsOf keyword instructions = argsOf otherKeyword otherInstructions ↔ lists = otherLists := by
  constructor
  · intro same
    -- The same arguments read alike.
    have read := read_argsOf arrays legible written
    rw [same, read_argsOf otherArrays otherLegible otherWritten] at read
    have shown : Function.Injective fun tokens : List String => [some tokens] := by
      intro tokens others listed
      simpa using listed
    exact (List.map_injective_iff.mpr shown read).symm
  · rintro rfl
    rw [argsOf_eq arrays written, argsOf_eq otherArrays otherWritten]

/-- Legible tokens are read back from their array, and from no other text. So exec forms with such
tokens are written alike only if they are the same, and shells only if their tokens are. In the
Dockerfiles of two recipes, or of one, the arrays behind two keywords are then the same only if they
were given the same tokens. -/
theorem arrays_tell_tokens :
    (∀ tokens array, Legible tokens →
      (readArray? array = some tokens ↔ array = tokenArray tokens)) ∧
    (∀ tokens others, Legible tokens → Legible others →
      ((Argument.exec tokens).encode = (Argument.exec others).encode ↔ tokens = others)) ∧
    (∀ a b : Argument, Legible a.tokens → Legible b.tokens →
      (a.encodeTokens = b.encodeTokens ↔ a.tokens = b.tokens)) ∧
    ∀ (r s : Recipe) keyword otherKeyword lists otherLists instructions otherInstructions,
      r.Arrays keyword lists → s.Arrays otherKeyword otherLists →
      (∀ tokens ∈ lists, Legible tokens) → (∀ tokens ∈ otherLists, Legible tokens) →
      r.instructions = .ok instructions → s.instructions = .ok otherInstructions →
      (argsOf keyword instructions).map (·.map readArray?) =
          lists.map (fun tokens => [some tokens]) ∧
        (argsOf keyword instructions = argsOf otherKeyword otherInstructions ↔
          lists = otherLists) := by
  refine ⟨fun _ _ => readArray?_eq_some_iff, fun _ _ => tokenArray_inj, fun _ _ => tokenArray_inj,
    ?_⟩
  intro r s keyword otherKeyword lists otherLists instructions otherInstructions arrays otherArrays
    legible otherLegible written otherWritten
  exact ⟨read_argsOf arrays legible written,
    argsOf_inj arrays otherArrays legible otherLegible written otherWritten⟩

def commas : Recipe :=
  { start with
    volumes := ["/a,/b"]
    exportBaseDir := some false
    cmd := some (.exec ["/a", "/b"]) }

theorem arrays_tell_tokens_commas :
    readArray? "[\"\",\",\",\"[a, b]\",\"\"]" = some ["", ",", "[a, b]", ""] ∧
    (Argument.exec ["a,b"]).encode ≠ (Argument.exec ["a", "b"]).encode ∧
    (Argument.shell " pwsh\t-c ").encodeTokens ≠ (Argument.exec ["pwsh -c"]).encodeTokens ∧
    ∃ instructions, commas.instructions = .ok instructions ∧
      (argsOf .volume instructions).map (·.map readArray?) = [[some ["/a,/b"]]] ∧
      argsOf .volume instructions ≠ argsOf .cmd instructions := by
  obtain ⟨reads, exec, shell, recipes⟩ := arrays_tell_tokens
  have volumes : commas.Arrays .volume [["/a,/b"]] := .volume
  have command : commas.Arrays .cmd [["/a", "/b"]] := .cmd rfl
  have legible : ∀ tokens ∈ [["/a,/b"]], Legible tokens :=
    List.forall_mem_singleton.mpr ⟨by decide, by decide⟩
  have otherLegible : ∀ tokens ∈ [["/a", "/b"]], Legible tokens :=
    List.forall_mem_singleton.mpr ⟨by decide, by decide⟩
  obtain ⟨read, apart⟩ := recipes commas commas _ _ _ _ _ _ volumes command legible otherLegible
    rfl rfl
  refine ⟨(reads _ _ ⟨by decide, by decide⟩).mpr (by decide), ?_, ?_, _, rfl, read, ?_⟩
  · rw [ne_eq, exec _ _ ⟨by decide, by decide⟩ ⟨by decide, by decide⟩]
    decide
  · rw [ne_eq, shell _ _ ⟨by decide, by decide⟩ ⟨by decide, by decide⟩]
    decide
  · rw [ne_eq, apart]
    decide

end Recipe

end ImageRecipe
