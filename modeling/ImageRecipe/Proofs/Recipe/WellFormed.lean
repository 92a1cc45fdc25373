import ImageRecipe.Proofs.BaseDir
import ImageRecipe.Proofs.Recipe.Step

namespace ImageRecipe.Recipe

/-- The invariant of building. -/
structure WellFormed (r : Recipe) : Prop where
  baseDir : BaseDir.Rooted r.baseDir
  envKeys : (r.env.toList.map Prod.fst).Nodup
  envValues : ∀ entry ∈ r.env.toList, entry.2 ≠ ""
  labelKeys : (r.labels.toList.map Prod.fst).Nodup
  runs : ∀ command ∈ r.runs, ∃ c ∈ command.toList, Text.isBlank c = false
  copies : ∀ rule ∈ r.copies, rule.destination.toList.head? ≠ some '/'

theorem emptyKey?_eq_none_iff (entries : List (String × String)) :
    emptyKey? entries = none ↔ ∀ entry ∈ entries, entry.2 ≠ "" := by
  simp [emptyKey?]

theorem exists_of_not_isBlankText {s : String} (visible : Text.isBlankText s = false) :
    ∃ c ∈ s.toList, Text.isBlank c = false := by
  simpa [Text.isBlankText, List.all_eq_false] using visible

theorem make_destination (source destination : String) (placement : Placement) :
    (CopyRule.make source destination placement).destination.toList.head? ≠ some '/' := by
  rw [CopyRule.make, Text.toList_dropStart]
  intro slash
  have kept := List.head?_dropWhile_not (fun c => decide (c = '/')) destination.toList
  rw [slash] at kept
  simp at kept

theorem start_wellFormed : WellFormed start where
  baseDir := (BaseDir.isValid_iff _).mp (by decide)
  envKeys := List.nodup_nil
  envValues := by intro entry member; cases member
  labelKeys := List.nodup_nil
  runs := by intro command member; cases member
  copies := by intro rule member; cases member

theorem effect_wellFormed {r : Recipe} {step : Step} (h : WellFormed r)
    (faultless : step.fault? r = none) : WellFormed (step.effect r) := by
  cases step with
  | baseDir dir =>
    have valid : BaseDir.isValid dir = true := by
      cases checked : BaseDir.isValid dir with
      | true => rfl
      | false => simp [Step.fault?, checked] at faultless
    have rooted := (BaseDir.isValid_iff dir).mp valid
    exact ⟨rooted, h.envKeys, h.envValues, h.labelKeys, h.runs, h.copies⟩
  | env entries =>
    have filled : emptyKey? (r.env.merge entries).toList = none := by
      simpa [Step.fault?] using faultless
    exact ⟨h.baseDir, (r.env.merge entries).distinct, (emptyKey?_eq_none_iff _).mp filled,
      h.labelKeys, h.runs, h.copies⟩
  | labels entries =>
    exact ⟨h.baseDir, h.envKeys, h.envValues, (r.labels.merge entries).distinct, h.runs, h.copies⟩
  | run commands =>
    refine ⟨h.baseDir, h.envKeys, h.envValues, h.labelKeys, ?_, h.copies⟩
    intro command member
    rcases List.mem_append.mp member with old | new
    · exact h.runs command old
    · apply exists_of_not_isBlankText
      simpa using (List.mem_filter.mp new).2
  | copy source destination placement =>
    refine ⟨h.baseDir, h.envKeys, h.envValues, h.labelKeys, h.runs, ?_⟩
    intro rule member
    rcases List.mem_append.mp member with old | new
    · exact h.copies rule old
    · rw [List.mem_singleton.mp new]
      exact make_destination source destination placement
  | _ => exact ⟨h.baseDir, h.envKeys, h.envValues, h.labelKeys, h.runs, h.copies⟩

theorem advance_wellFormed {r : Recipe} (h : WellFormed r) (step : Step) :
    WellFormed (r.advance step) := by
  rw [advance_eq]
  split
  · rename_i faultless
    exact effect_wellFormed h faultless
  · exact h

theorem run_wellFormed {r : Recipe} (h : WellFormed r) (steps : List Step) :
    WellFormed (r.run steps) := by
  induction steps generalizing r with
  | nil => exact h
  | cons step steps ih => exact ih (advance_wellFormed h step)

end ImageRecipe.Recipe
