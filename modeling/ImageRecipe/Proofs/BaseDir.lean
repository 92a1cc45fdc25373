import Mathlib.Computability.Language
import ImageRecipe.Proofs.Recipe.Step

/-!
The language of base directories: a slash, or a reference to a variable with or without braces, and
then anything. The reference is a regular expression, of which it is enough to find an occurrence at
the beginning.
-/
namespace ImageRecipe.BaseDir

open scoped Computability

def NameChar (c : Char) : Prop :=
  ('A' ≤ c ∧ c ≤ 'Z') ∨ ('a' ≤ c ∧ c ≤ 'z') ∨ ('0' ≤ c ∧ c ≤ '9') ∨ c = '_'

inductive Start : List Char → Prop where
  | root : Start ['/']
  | variable {name : List Char} : name ≠ [] → (∀ c ∈ name, NameChar c) → Start ('$' :: name)
  | braced {name : List Char} : name ≠ [] → (∀ c ∈ name, NameChar c) →
      Start ('$' :: '\x7b' :: name ++ ['\x7d'])

def Rooted (dir : String) : Prop :=
  ∃ start rest, Start start ∧ dir.toList = start ++ rest

theorem isNameChar_iff (c : Char) : isNameChar c = true ↔ NameChar c := by
  have upper : c.isUpper = true ↔ 'A' ≤ c ∧ c ≤ 'Z' := decide_eq_true_iff
  have range (first last : Char) :
      (decide (c.val ≥ first.val) && decide (c.val ≤ last.val)) = true ↔ first ≤ c ∧ c ≤ last := by
    rw [Bool.and_eq_true, decide_eq_true_iff, decide_eq_true_iff]
    exact Iff.rfl
  have lower : c.isLower = true ↔ 'a' ≤ c ∧ c ≤ 'z' := range 'a' 'z'
  have digit : c.isDigit = true ↔ '0' ≤ c ∧ c ≤ '9' := range '0' '9'
  have parts : isNameChar c = ((c.isUpper || c.isLower || c.isDigit) || decide (c = '_')) := rfl
  rw [parts, NameChar]
  simp only [Bool.or_eq_true, upper, lower, digit, decide_eq_true_eq, or_assoc]

theorem forall_takeWhile (cs : List Char) : ∀ c ∈ cs.takeWhile isNameChar, NameChar c := by
  intro c member
  exact (isNameChar_iff c).mp (List.all_eq_true.mp List.all_takeWhile c member)

theorem span_name {name : List Char} {c : Char} (rest : List Char)
    (letters : ∀ d ∈ name, NameChar d) (other : isNameChar c = false) :
    (name ++ c :: rest).takeWhile isNameChar = name ∧
      (name ++ c :: rest).dropWhile isNameChar = c :: rest := by
  have all : ∀ d ∈ name, isNameChar d = true :=
    fun d there => (isNameChar_iff d).mpr (letters d there)
  rw [List.takeWhile_append_of_pos all, List.dropWhile_append_of_pos all]
  simp [other]

theorem startsWithVariable_braced (cs : List Char) :
    startsWithVariable ('$' :: '\x7b' :: cs) = true ↔
      ∃ name rest, name ≠ [] ∧ (∀ c ∈ name, NameChar c) ∧ cs = name ++ '\x7d' :: rest := by
  simp only [startsWithVariable, Bool.and_eq_true, beq_iff_eq, Bool.not_eq_true',
    List.isEmpty_eq_false_iff]
  constructor
  · rintro ⟨nonempty, closed⟩
    obtain ⟨rest, behind⟩ := List.head?_eq_some_iff.mp closed
    refine ⟨cs.takeWhile isNameChar, rest, nonempty, forall_takeWhile cs, ?_⟩
    rw [← behind, List.takeWhile_append_dropWhile]
  · rintro ⟨name, rest, nonempty, letters, rfl⟩
    have brace : isNameChar '\x7d' = false := by decide
    obtain ⟨taken, behind⟩ := span_name rest letters brace
    rw [taken, behind]
    exact ⟨nonempty, rfl⟩

theorem startsWithVariable_plain {c : Char} (cs : List Char) (unbraced : c ≠ '\x7b') :
    startsWithVariable ('$' :: c :: cs) = isNameChar c := by
  rw [startsWithVariable]
  exact unbraced

theorem startsWithVariable_iff (cs : List Char) :
    startsWithVariable cs = true ↔
      ∃ start rest, Start start ∧ start ≠ ['/'] ∧ cs = start ++ rest := by
  constructor
  · intro accepted
    unfold startsWithVariable at accepted
    split at accepted
    · rename_i cs
      obtain ⟨name, rest, nonempty, letters, rfl⟩ := (startsWithVariable_braced cs).mp accepted
      exact ⟨_, rest, .braced nonempty letters, by simp, by simp⟩
    · rename_i c cs _
      refine ⟨['$', c], cs, .variable (by simp) ?_, by simp, rfl⟩
      intro d member
      rw [List.mem_singleton.mp member]
      exact (isNameChar_iff c).mp accepted
    · cases accepted
  · rintro ⟨start, rest, begins, notRoot, rfl⟩
    cases begins with
    | root => exact absurd rfl notRoot
    | @braced name nonempty letters =>
      have cut : '$' :: '\x7b' :: name ++ ['\x7d'] ++ rest =
          '$' :: '\x7b' :: (name ++ '\x7d' :: rest) := by
        simp
      rw [cut, startsWithVariable_braced]
      exact ⟨name, rest, nonempty, letters, rfl⟩
    | @«variable» name nonempty letters =>
      cases name with
      | nil => exact absurd rfl nonempty
      | cons c name =>
        have letter := (isNameChar_iff c).mpr (letters c List.mem_cons_self)
        have unbraced : c ≠ '\x7b' := by
          rintro rfl
          cases letter
        rw [List.cons_append, List.cons_append, startsWithVariable_plain _ unbraced]
        exact letter

theorem isValid_iff (dir : String) : isValid dir = true ↔ Rooted dir := by
  rw [isValid, Bool.or_eq_true, beq_iff_eq, startsWithVariable_iff]
  constructor
  · rintro (slash | ⟨start, rest, begins, _, same⟩)
    · obtain ⟨rest, same⟩ := List.head?_eq_some_iff.mp slash
      exact ⟨['/'], rest, .root, same⟩
    · exact ⟨start, rest, begins, same⟩
  · rintro ⟨start, rest, begins, same⟩
    by_cases root : start = ['/']
    · left
      rw [same, root]
      rfl
    · exact .inr ⟨start, rest, begins, root, same⟩

theorem check_eq_ok_iff {dir : String} : check dir = .ok () ↔ Rooted dir := by
  rw [check, ← isValid_iff]
  cases isValid dir <;> simp

theorem check_eq_error_iff {dir : String} {fault : Fault} :
    check dir = .error fault ↔ ¬ Rooted dir ∧ fault = .malformedBaseDir dir := by
  rw [check, ← isValid_iff]
  cases isValid dir with
  | true => simp
  | false => simp [@eq_comm _ fault]

def single (p : Char → Prop) : Language Char := {cs | ∃ c, p c ∧ cs = [c]}

def name : Language Char := single NameChar * (single NameChar)∗

def reference : Language Char :=
  single (· = '$') * (single (· = '\x7b') * (name * single (· = '\x7d')) + name)

/-- A reference to a variable, and as much as there is of its line. -/
def variablePattern : Language Char := reference * (single (· ≠ '\n'))∗

variable {cs : List Char}

theorem mem_single {p : Char → Prop} : cs ∈ single p ↔ ∃ c, p c ∧ cs = [c] := Iff.rfl

theorem mem_char_mul {c : Char} {l : Language Char} :
    cs ∈ single (· = c) * l ↔ ∃ rest ∈ l, cs = c :: rest := by
  simp [Language.mem_mul, mem_single, eq_comm]

theorem mem_mul_char {c : Char} {l : Language Char} :
    cs ∈ l * single (· = c) ↔ ∃ front ∈ l, cs = front ++ [c] := by
  simp [Language.mem_mul, mem_single, eq_comm]

theorem mem_kstar_single {p : Char → Prop} : cs ∈ (single p)∗ ↔ ∀ c ∈ cs, p c := by
  rw [Language.mem_kstar]
  constructor
  · rintro ⟨parts, rfl, singles⟩ c inside
    obtain ⟨part, there, member⟩ := List.mem_flatten.mp inside
    obtain ⟨d, holds, rfl⟩ := singles part there
    rwa [List.mem_singleton.mp member]
  · intro every
    refine ⟨cs.map fun c => [c], by simp [← List.flatMap_def], ?_⟩
    intro part there
    obtain ⟨c, inside, rfl⟩ := List.mem_map.mp there
    exact ⟨c, every c inside, rfl⟩

theorem mem_name : cs ∈ name ↔ cs ≠ [] ∧ ∀ c ∈ cs, NameChar c := by
  simp only [name, Language.mem_mul, mem_kstar_single, mem_single]
  constructor
  · rintro ⟨_, ⟨c, letter, rfl⟩, rest, letters, rfl⟩
    simpa using ⟨letter, letters⟩
  · rintro ⟨filled, letters⟩
    cases cs with
    | nil => exact absurd rfl filled
    | cons c cs =>
      rw [List.forall_mem_cons] at letters
      exact ⟨[c], ⟨c, letters.1, rfl⟩, cs, letters.2, rfl⟩

theorem mem_reference : cs ∈ reference ↔ Start cs ∧ cs ≠ ['/'] := by
  simp only [reference, mem_char_mul, mem_mul_char, Language.mem_add, mem_name]
  constructor
  · rintro ⟨_, ⟨_, ⟨name, ⟨filled, letters⟩, rfl⟩, rfl⟩ | ⟨filled, letters⟩, rfl⟩
    · exact ⟨.braced filled letters, by simp⟩
    · exact ⟨.variable filled letters, by simp⟩
  · rintro ⟨start, notRoot⟩
    cases start with
    | root => exact absurd rfl notRoot
    | «variable» filled letters => exact ⟨_, .inr ⟨filled, letters⟩, rfl⟩
    | braced filled letters => exact ⟨_, .inl ⟨_, ⟨_, ⟨filled, letters⟩, rfl⟩, rfl⟩, rfl⟩

/-- The rest of the line may be left to what follows, so where it ends does not matter. -/
theorem occurs_iff :
    (∃ found rest, found ∈ variablePattern ∧ cs = found ++ rest) ↔
      startsWithVariable cs = true := by
  rw [startsWithVariable_iff]
  constructor
  · rintro ⟨_, rest, found, rfl⟩
    obtain ⟨start, refers, line, _, rfl⟩ := Language.mem_mul.mp found
    obtain ⟨begins, notRoot⟩ := mem_reference.mp refers
    exact ⟨start, line ++ rest, begins, notRoot, List.append_assoc start line rest⟩
  · rintro ⟨start, rest, begins, notRoot, rfl⟩
    have refers : start ∈ reference := mem_reference.mpr ⟨begins, notRoot⟩
    have found : start ++ [] ∈ variablePattern :=
      Language.mem_mul.mpr ⟨start, refers, [], Language.nil_mem_kstar _, rfl⟩
    exact ⟨start ++ [], rest, found, by simp⟩

end ImageRecipe.BaseDir

namespace ImageRecipe.Recipe

/-- A base directory is taken as it is given, and nothing else changes, exactly if it begins with a
slash or with a reference to a variable, whatever comes then. Any other is blamed as it is given. -/
theorem apply_baseDir (r : Recipe) (dir : String) :
    (∀ next, r.apply (.baseDir dir) = .ok next ↔
      BaseDir.Rooted dir ∧ next = { r with baseDir := dir }) ∧
    (∀ fault, r.apply (.baseDir dir) = .error fault ↔
      ¬ BaseDir.Rooted dir ∧ fault = .malformedBaseDir dir) ∧
    (BaseDir.Rooted dir ↔ (∃ rest, dir.toList = '/' :: rest) ∨
      ∃ found rest, found ∈ BaseDir.variablePattern ∧ dir.toList = found ++ rest) := by
  refine ⟨fun next => ?_, fun fault => ?_, ?_⟩
  · simp [apply_eq_ok_iff, Step.fault?, Step.effect, BaseDir.isValid_iff, @eq_comm _ next]
  · simp [apply_eq_error_iff, Step.fault?, BaseDir.isValid_iff, @eq_comm _ fault]
  · rw [BaseDir.occurs_iff, ← BaseDir.isValid_iff, BaseDir.isValid, Bool.or_eq_true, beq_iff_eq,
      List.head?_eq_some_iff]

end ImageRecipe.Recipe
