import ImageRecipe.Text.Lowercase

/-!
Lower-casing and ASCII. A character of ASCII becomes what it becomes there. Of all other characters
the Kelvin sign and the capital I with a dot alone have a character of ASCII among their small
letters. `Lowered` leaves open which small sigma stands for a capital one; where the outcome or the
text keeps to ASCII there is nothing to choose.
-/
namespace ImageRecipe.Text

theorem toLower_of_capital : ∀ n < 26, (Char.ofNat (0x41 + n)).toLower = Char.ofNat (0x61 + n) := by
  decide

theorem toLower_of_notCapital {c : Char} (other : ¬ (0x41 ≤ c.toNat ∧ c.toNat ≤ 0x5A)) :
    c.toLower = c :=
  dif_neg other

theorem caseRuns_later : ∀ run ∈ caseRuns.tail, 128 ≤ run.first := by
  decide +kernel

theorem lowerChar_of_ascii {c : Char} (ascii : c.toNat < 128) : lowerChar c = [c.toLower] := by
  have undotted : c ≠ '\u0130' := by
    rintro rfl
    exact absurd ascii (by decide)
  have runs : caseRuns = ⟨0x41, 0x5A, 1, 0x61⟩ :: caseRuns.tail := rfl
  have later : caseRuns.tail.find? (·.covers c.toNat) = none := by
    rw [List.find?_eq_none]
    intro run there covered
    have above := caseRuns_later run there
    simp only [CaseRun.covers, Bool.and_eq_true, decide_eq_true_eq] at covered
    omega
  rw [lowerChar, if_neg undotted, runs, List.find?_cons, later]
  by_cases capital : 0x41 ≤ c.toNat ∧ c.toNat ≤ 0x5A
  · have covered : CaseRun.covers ⟨0x41, 0x5A, 1, 0x61⟩ c.toNat = true := by
      simp only [CaseRun.covers, Bool.and_eq_true, decide_eq_true_eq, beq_iff_eq]
      omega
    have small := toLower_of_capital (c.toNat - 0x41) (by omega)
    have back : 0x41 + (c.toNat - 0x41) = c.toNat := by omega
    rw [back, Char.ofNat_toNat] at small
    rw [covered, small]
  · have uncovered : CaseRun.covers ⟨0x41, 0x5A, 1, 0x61⟩ c.toNat = false := by
      simp only [CaseRun.covers, Bool.and_eq_false_iff, decide_eq_false_iff_not]
      omega
    rw [uncovered, toLower_of_notCapital capital]

/-- The runs that lead into ASCII start there, but for that of the Kelvin sign. -/
theorem caseRuns_small : ∀ run ∈ caseRuns, run.small < 128 →
    run.last < 128 ∨ (run.first = run.last ∧ run.small = 'k'.toNat) := by
  decide +kernel

theorem toNat_ofNat {n : Nat} (nonzero : Char.ofNat n ≠ '\x00') : (Char.ofNat n).toNat = n := by
  by_cases valid : n.isValidChar
  · rw [Char.ofNat, dif_pos valid]
    rfl
  · exact absurd (by rw [Char.ofNat, dif_neg valid]; rfl) nonzero

/-- A character of ASCII among the small letters of a character comes from ASCII itself. -/
theorem ascii_of_mem_lowerChar {c d : Char} (member : d ∈ lowerChar c) (ascii : d.toNat < 128)
    (notI : d ≠ 'i') (notK : d ≠ 'k') (notZero : d ≠ '\x00') : c.toNat < 128 := by
  unfold lowerChar at member
  split at member
  · have two : d = 'i' ∨ d = '\u0307' := by simpa using member
    rcases two with rfl | rfl
    · exact absurd rfl notI
    · exact absurd ascii (by decide)
  · split at member
    · rename_i run found
      obtain rfl := List.mem_singleton.mp member
      have code := toNat_ofNat notZero
      have covered := List.find?_some found
      simp only [CaseRun.covers, Bool.and_eq_true, decide_eq_true_eq] at covered
      have small : run.small < 128 := by omega
      rcases caseRuns_small run (List.mem_of_find?_eq_some found) small with below | ⟨alone, kelvin⟩
      · omega
      · have letter : run.small + (c.toNat - run.first) = 'k'.toNat := by omega
        rw [letter, Char.ofNat_toNat] at notK
        exact absurd rfl notK
    · obtain rfl := List.mem_singleton.mp member
      exact ascii

theorem flatMap_lowerChar {cs : List Char} (ascii : ∀ c ∈ cs, c.toNat < 128) :
    cs.flatMap lowerChar = cs.map Char.toLower := by
  induction cs with
  | nil => rfl
  | cons c cs ih =>
    have head := lowerChar_of_ascii (ascii c List.mem_cons_self)
    have tail := ih fun d there => ascii d (.tail c there)
    rw [List.flatMap_cons, head, tail, List.map_cons, List.singleton_append]

theorem ascii_of_lower {cs : List Char}
    (small : ∀ d ∈ cs.flatMap lowerChar, d.toNat < 128 ∧ d ≠ 'i' ∧ d ≠ 'k' ∧ d ≠ '\x00') :
    ∀ c ∈ cs, c.toNat < 128 := by
  intro c there
  have nonempty : lowerChar c ≠ [] := by
    unfold lowerChar
    split
    · simp
    · split <;> simp
  obtain ⟨d, member⟩ := List.exists_mem_of_ne_nil _ nonempty
  obtain ⟨ascii, notI, notK, notZero⟩ := small d (List.mem_flatMap.mpr ⟨c, there, member⟩)
  exact ascii_of_mem_lowerChar member ascii notI notK notZero

/-- A text and what becomes of it in small letters, with either small sigma for a capital one: which
of the two it is depends on whether a word ends there. -/
inductive Lowered : List Char → List Char → Prop where
  | nil : Lowered [] []
  | cons (c : Char) {cs ds : List Char} : Lowered cs ds → Lowered (c :: cs) (lowerChar c ++ ds)
  | finalSigma {cs ds : List Char} : Lowered cs ds → Lowered ('\u03A3' :: cs) ('\u03C2' :: ds)

theorem lowered_lower (s : String) : Lowered s.toList (lower s).toList := by
  rw [lower, String.toList_ofList]
  induction s.toList with
  | nil => exact .nil
  | cons c cs ih => exact .cons c ih

theorem Lowered.unique_of_small {cs ds es : List Char} (lowered : Lowered cs ds)
    (other : Lowered cs es) (small : ∀ d ∈ ds, d.toNat < 128) : ds = es := by
  induction lowered generalizing es with
  | nil =>
    cases other
    rfl
  | cons c _ ih =>
    cases other with
    | cons _ rest => rw [ih rest fun d member => small d (List.mem_append_right _ member)]
    | finalSigma _ =>
      have sigma : '\u03C3' ∈ lowerChar '\u03A3' := by decide
      exact absurd (small _ (List.mem_append_left _ sigma)) (by decide)
  | finalSigma _ _ => exact absurd (small '\u03C2' List.mem_cons_self) (by decide)

theorem Lowered.unique_of_ascii {cs ds es : List Char} (lowered : Lowered cs ds)
    (other : Lowered cs es) (ascii : ∀ c ∈ cs, c.toNat < 128) : ds = es := by
  induction lowered generalizing es with
  | nil =>
    cases other
    rfl
  | cons c _ ih =>
    cases other with
    | cons _ rest => rw [ih rest fun d member => ascii d (.tail c member)]
    | finalSigma _ => exact absurd (ascii '\u03A3' List.mem_cons_self) (by decide)
  | finalSigma _ _ => exact absurd (ascii '\u03A3' List.mem_cons_self) (by decide)

end ImageRecipe.Text
