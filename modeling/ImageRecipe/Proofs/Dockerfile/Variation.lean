import ImageRecipe.Proofs.Dockerfile.Layout
import ImageRecipe.Proofs.Dockerfile.Refusal

/-!
Two recipes side by side. If the check comes out the same they fail alike or both give instructions;
and if they write one section differently and all others alike, the instructions differ in one
stretch, with the same before it and behind it.
-/
namespace ImageRecipe.Recipe

structure Writes (r : Recipe) (instructions : List Instruction) : Prop where
  written : r.instructions = .ok instructions
  rendered : r.render = .ok (dockerfileText instructions)

variable {r s : Recipe} {ports : List String}

theorem writes_of_check (checked : r.check = .ok ports) : r.Writes (r.instructionsWith ports) := by
  constructor
  · rw [instructions, checked]
    rfl
  · rw [render_eq_map_check, checked]
    rfl

theorem check_cases (same : s.check = r.check) :
    (∃ fault, r.render = .error fault ∧ s.render = .error fault) ∨
      ∃ ports, r.check = .ok ports ∧ s.check = .ok ports := by
  cases outcome : r.check with
  | error fault =>
    exact .inl ⟨fault, render_eq_error_iff.mpr outcome,
      render_eq_error_iff.mpr (same.trans outcome)⟩
  | ok ports => exact .inr ⟨ports, rfl, same.trans outcome⟩

theorem writtenSection_copy_congr (copies : s.copies = r.copies) (dir : s.baseDir = r.baseDir)
    (user : s.assemblyUser = r.assemblyUser) :
    r.writtenSection ports .copy = s.writtenSection ports .copy := by
  have rules : s.copyInstructions = r.copyInstructions :=
    funext fun rule => copyInstructions_congr user dir rule
  rw [writtenSection, writtenSection, copies, rules]

/-- Sections that follow one another, of which one alone is written differently. -/
theorem sections_differ {sections : List Keyword} {k : Keyword} (checked : r.check = .ok ports)
    (distinct : sections.Nodup) (member : k ∈ sections) (notUser : k ≠ .user)
    (same : ∀ j ∈ sections, j ≠ k → r.writtenSection ports j = s.writtenSection ports j) :
    ∃ front back, (∀ i ∈ front ++ back, i.keyword ≠ k) ∧
      sections.flatMap (r.writtenSection ports) = front ++ r.writtenSection ports k ++ back ∧
      sections.flatMap (s.writtenSection ports) = front ++ s.writtenSection ports k ++ back := by
  obtain ⟨front, back, first, second, around⟩ := flatMap_differ distinct member same
  refine ⟨front, back, ?_, first, second⟩
  intro i inside
  obtain ⟨j, _, other, holds⟩ := around i inside
  have written : r.Section j (r.writtenSection ports j) :=
    section_writtenSection (check_ports checked) j
  exact section_keyword_ne written other notUser i holds

end ImageRecipe.Recipe
