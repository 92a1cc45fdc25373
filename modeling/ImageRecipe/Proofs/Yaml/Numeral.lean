import ImageRecipe.Yaml.Scalar

namespace ImageRecipe.Yaml.Scalar

variable {n : Nat}

theorem digit_toDigits {c : Char} (member : c ∈ Nat.toDigits 10 n) : c.isDigit = true :=
  Nat.isDigit_of_mem_toDigits (by decide) (by decide) member

theorem digit?_of_isDigit {c : Char} (digit : c.isDigit = true) :
    digit? 10 c = some (c.toNat - '0'.toNat) := by
  have range : '0'.toNat ≤ c.toNat ∧ c.toNat ≤ '9'.toNat := by
    simpa [Char.isDigit, UInt32.le_iff_toNat_le] using digit
  have last : '9'.toNat = '0'.toNat + 9 := rfl
  have small : c.toNat - '0'.toNat < 10 := by omega
  rw [digit?, hexDigit?, if_pos digit, Option.filter, if_pos (decide_eq_true small)]

theorem mapM_digit? {cs : List Char} (digits : ∀ c ∈ cs, c.isDigit = true) :
    cs.mapM (digit? 10) = some (cs.map fun c => c.toNat - '0'.toNat) := by
  induction cs with
  | nil => rfl
  | cons c cs ih =>
    have tail := ih fun d member => digits d (.tail c member)
    rw [List.mapM_cons, digit?_of_isDigit (digits c List.mem_cons_self), tail]
    rfl

theorem digits?_toDigits (n : Nat) : digits? 10 (Nat.toDigits 10 n) = some n := by
  have filled : (Nat.toDigits 10 n).isEmpty = false :=
    List.isEmpty_eq_false_iff.mpr Nat.toDigits_ne_nil
  have value : ((Nat.toDigits 10 n).map fun c => c.toNat - '0'.toNat).foldl
      (fun n digit => 10 * n + digit) 0 = n := by
    rw [List.foldl_map, ← Nat.ofDigitChars_eq_foldl, Nat.ofDigitChars_ten_toDigits]
  rw [digits?, filled, mapM_digit? fun _ => digit_toDigits, Option.map_some, value]
  rfl

theorem head?_toDigits (positive : 0 < n) : (Nat.toDigits 10 n).head? ≠ some '0' := by
  induction n using Nat.strongRecOn with
  | ind n ih =>
    rw [Nat.toDigits_eq_if (by decide)]
    split
    · rename_i small
      have other : ∀ m < 10, 0 < m → m.digitChar ≠ '0' := by decide
      simpa using other n small positive
    · have shorter := ih (n / 10) (by omega) (by omega)
      have filled : Nat.toDigits 10 (n / 10) ≠ [] := Nat.toDigits_ne_nil
      obtain ⟨c, cs, digits⟩ := List.exists_cons_of_ne_nil filled
      rw [digits] at shorter ⊢
      exact shorter

theorem head?_toDigits_of_not_isDigit {c : Char} (other : c.isDigit = false) :
    (Nat.toDigits 10 n).head? ≠ some c := by
  intro first
  rw [digit_toDigits (List.mem_of_head? first)] at other
  cases other

theorem hasLeadingZero_toDigits (n : Nat) : hasLeadingZero (Nat.toDigits 10 n) = false := by
  have plus : (Nat.toDigits 10 n).head? ≠ some '+' := head?_toDigits_of_not_isDigit (by decide)
  have minus : (Nat.toDigits 10 n).head? ≠ some '-' := head?_toDigits_of_not_isDigit (by decide)
  cases n with
  | zero => rw [Nat.toDigits_zero]; rfl
  | succ n =>
    have zero := head?_toDigits (Nat.succ_pos n)
    simp [hasLeadingZero, startsWithSign, plus, minus, zero]

theorem radixMarks_toDigits (n : Nat) :
    (radixMarks.findSome? fun mark =>
      (Text.rest? mark.1 (Nat.toDigits 10 n)).map (mark.2, ·)) = none := by
  rw [List.findSome?_eq_none_iff]
  intro mark known
  rw [Option.map_eq_none_iff]
  cases cut : Text.rest? mark.1 (Nat.toDigits 10 n) with
  | none => rfl
  | some tail =>
    -- a mark has a letter in it
    have letter : ∀ mark ∈ radixMarks, mark.1.all Char.isDigit = false := by decide
    have digits : mark.1.all Char.isDigit = true := by
      rw [List.all_eq_true]
      intro c inside
      apply digit_toDigits
      rw [Text.rest?_eq_some_iff.mp cut]
      exact List.mem_append_left tail inside
    rw [letter mark known] at digits
    cases digits

theorem magnitude?_toDigits (n : Nat) : magnitude? (Nat.toDigits 10 n) = some n := by
  rw [magnitude?, radixMarks_toDigits]
  simp only [hasLeadingZero_toDigits, Bool.false_eq_true, if_false]
  exact digits?_toDigits n

theorem natural?_repr {bits : Nat} (fits : n < Decimal.twoTo bits) :
    natural? bits n.repr.toList = some n := by
  have unsigned : ((Nat.toDigits 10 n).head? == some '+') = false :=
    beq_eq_false_iff_ne.mpr (head?_toDigits_of_not_isDigit (by decide))
  rw [Nat.toList_repr, natural?, unsigned]
  simp only [Bool.false_eq_true, if_false]
  rw [magnitude?_toDigits, Option.filter, if_pos (decide_eq_true fits)]

theorem isNullWord_repr (n : Nat) : isNullWord n.repr = false := by
  have letter : ∀ word ∈ ["null", "Null", "NULL", "~"], word.toList.all Char.isDigit = false := by
    decide
  have digits : n.repr.toList.all Char.isDigit = true := by
    rw [Nat.toList_repr, List.all_eq_true]
    exact fun c => digit_toDigits
  have other : n.repr ∉ ["null", "Null", "NULL", "~"] := by
    intro member
    rw [letter n.repr member] at digits
    cases digits
  exact eq_false_of_ne_true fun listed => other (List.contains_iff_mem.mp listed)

end ImageRecipe.Yaml.Scalar
