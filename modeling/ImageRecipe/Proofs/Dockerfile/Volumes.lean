import ImageRecipe.Proofs.Dockerfile.Layout
import ImageRecipe.Proofs.Text.Cutting

namespace ImageRecipe

open Text (Stripped)

/-- The root, and the empty path that stands for it in front of a slash. -/
def IsRoot (path : String) : Prop := ∀ c ∈ path.toList, c = '/'

instance (path : String) : Decidable (IsRoot path) :=
  List.decidableBAll (fun c => c = '/') path.toList

theorem isRoot_iff {path : String} : IsRoot path ↔ Text.dropEnd (· = '/') path = "" := by
  constructor
  · intro root
    have stripped : Stripped (· = '/') path "" :=
      ⟨⟨path.toList, rfl, fun c member => decide_eq_true (root c member)⟩, by simp⟩
    exact stripped.eq_dropEnd.symm
  · intro empty c member
    obtain ⟨tail, split, slashes⟩ := (Text.stripped_dropEnd (· = '/') path).cut
    rw [empty, String.toList_empty, List.nil_append] at split
    exact of_decide_eq_true (slashes c (split ▸ member))

namespace Recipe

variable {r : Recipe}

/-- A flag exports if it says so, or if it is unset and no base image is configured. -/
def Exports (r : Recipe) (flag : Option Bool) : Prop :=
  flag = some true ∨ flag = none ∧ r.baseImage = none

instance (r : Recipe) (flag : Option Bool) : Decidable (r.Exports flag) :=
  inferInstanceAs (Decidable (_ ∨ _ ∧ _))

def exportedTargets (r : Recipe) : List String :=
  (r.copies.filter fun rule => r.Exports rule.placement.exported).map fun rule =>
    rule.placement.target.getD r.baseDir

def exportedPaths (r : Recipe) : List String :=
  r.exportedTargets ++ (if r.Exports r.exportBaseDir then [r.baseDir] else []) ++ r.volumes

theorem exports_iff {flag : Option Bool} :
    flag.getD r.exportsByDefault = true ↔ r.Exports flag := by
  rcases flag with _ | _ | _ <;> simp [Exports, exportsByDefault, hasBaseImage]

theorem not_exports_false : ¬ r.Exports (some false) := by
  simp [Exports]

/-- Rules that are switched off may as well be left out. -/
theorem exportedTargets_filter (r : Recipe) :
    ({ r with copies := r.copies.filter (·.placement.exported ≠ some false) } :
      Recipe).exportedTargets = r.exportedTargets := by
  have same : (r.copies.filter (·.placement.exported ≠ some false)).filter
        (fun rule => r.Exports rule.placement.exported) =
      r.copies.filter fun rule => r.Exports rule.placement.exported := by
    rw [List.filter_filter]
    apply List.filter_congr
    intro rule _
    by_cases off : rule.placement.exported = some false
    · simp [off, not_exports_false]
    · simp [off]
  unfold exportedTargets
  rw [← same]
  rfl

theorem exportedPaths_of_baseDir_off (off : r.exportBaseDir = some false) :
    r.exportedPaths = r.exportedTargets ++ r.volumes := by
  rw [exportedPaths, off, if_neg not_exports_false, List.append_nil]

theorem volume?_targetDir (r : Recipe) (rule : CopyRule) :
    volume? (r.targetDir rule) = volume? (rule.placement.target.getD r.baseDir) := by
  simp only [targetDir]
  split
  · rename_i root
    rw [root]
    rfl
  · rfl

theorem filterMap_volumePaths (r : Recipe) :
    r.volumePaths.filterMap volume? = r.exportedPaths.filterMap volume? := by
  have rules : r.copies.filter r.exportsTarget =
      r.copies.filter fun rule => r.Exports rule.placement.exported :=
    List.filter_congr fun rule _ => by
      rw [Bool.eq_iff_iff, decide_eq_true_iff]
      exact exports_iff
  have targets : volume? ∘ r.targetDir =
      volume? ∘ fun rule => rule.placement.target.getD r.baseDir := by
    funext rule
    rw [Function.comp_apply, Function.comp_apply, volume?_targetDir]
  have base : (if r.exportsBaseDir then [r.baseDir] else []) =
      if r.Exports r.exportBaseDir then [r.baseDir] else [] :=
    if_congr exports_iff rfl rfl
  rw [volumePaths, exportedPaths, exportedTargets, rules, base]
  simp only [List.filterMap_append, List.filterMap_map, targets]

theorem filterMap_volume? (paths : List String) :
    paths.filterMap volume? = (paths.map (Text.dropEnd (· = '/'))).filter (· ≠ "") := by
  induction paths with
  | nil => rfl
  | cons path paths ih =>
    by_cases root : Text.dropEnd (· = '/') path = "" <;> simp [volume?, root, ih]

theorem volumeInstructions_eq (r : Recipe) :
    r.volumeInstructions =
      ((r.exportedPaths.map (Text.dropEnd (· = '/'))).filter (· ≠ "")).map
        fun path => ⟨.volume, ["[\"" ++ path ++ "\"]"]⟩ := by
  have array (path : String) : tokenArray [path] = "[\"" ++ path ++ "\"]" := by
    rw [tokenArray, String.intercalate_singleton]
  rw [volumeInstructions, filterMap_volumePaths, filterMap_volume?]
  simp only [array]

theorem countP_volumes (paths : List String) :
    ((paths.map (Text.dropEnd (· = '/'))).filter (· ≠ "")).length =
      paths.countP (fun path => ¬ IsRoot path) := by
  rw [← List.countP_eq_length_filter, List.countP_map]
  apply List.countP_congr
  intro path _
  simp [isRoot_iff]

/-- The volumes of a Dockerfile are the exported paths in their order, each without the slashes at
its end and passed over if nothing is left. So every exported path but the root makes a volume, and
no volume is empty or ends in a slash. A flag that says no is never overruled. -/
theorem render_volumes (r : Recipe) (text : String) (rendered : r.render = .ok text) :
    ∃ instructions paths, r.instructions = .ok instructions ∧
      text = dockerfileText instructions ∧
      List.Forall₂ (Stripped (· = '/')) r.exportedPaths paths ∧
      instructions.filter (·.keyword = .volume) =
        (paths.filter (· ≠ "")).map (fun path => ⟨.volume, ["[\"" ++ path ++ "\"]"]⟩) ∧
      (∀ i ∈ instructions, i.keyword = .volume → ∃ source ∈ r.exportedPaths, ∃ path,
        ¬ IsRoot source ∧ Stripped (· = '/') source path ∧ path ≠ "" ∧
          path.toList.getLast? ≠ some '/' ∧ i.args = ["[\"" ++ path ++ "\"]"]) ∧
      instructions.countP (·.keyword = .volume) =
        r.exportedPaths.countP (fun path => ¬ IsRoot path) ∧
      ({ r with copies := r.copies.filter (·.placement.exported ≠ some false) } :
        Recipe).exportedTargets = r.exportedTargets ∧
      (r.exportBaseDir = some false → r.exportedPaths = r.exportedTargets ++ r.volumes) ∧
      ∀ path, Text.dropEnd (· = '/') (Text.dropEnd (· = '/') path) =
        Text.dropEnd (· = '/') path := by
  obtain ⟨instructions, written, rfl⟩ := render_eq_ok_iff.mp rendered
  have holds : r.Section .volume (instructions.filter (·.keyword = .volume)) :=
    layout_section (by decide) (by decide) (instructions_layout written)
  have volumes := holds.trans r.volumeInstructions_eq
  have stripped : List.Forall₂ (Stripped (· = '/')) r.exportedPaths
      (r.exportedPaths.map (Text.dropEnd (· = '/'))) := by
    rw [List.forall₂_map_right_iff, List.forall₂_same]
    exact fun path _ => Text.stripped_dropEnd (· = '/') path
  refine ⟨instructions, _, written, rfl, stripped, volumes, ?_, ?_, r.exportedTargets_filter,
    exportedPaths_of_baseDir_off, fun path => Text.dropEnd_dropEnd (· = '/') path⟩
  · intro i member keyword
    have inside : i ∈ instructions.filter (·.keyword = .volume) :=
      List.mem_filter.mpr ⟨member, decide_eq_true keyword⟩
    rw [volumes] at inside
    obtain ⟨path, kept, rfl⟩ := List.mem_map.mp inside
    obtain ⟨there, filled⟩ := List.mem_filter.mp kept
    obtain ⟨source, exported, cut⟩ := forall₂_exists stripped path there
    refine ⟨source, exported, path, ?_, cut, of_decide_eq_true filled, ?_, rfl⟩
    · rw [isRoot_iff, ← cut.eq_dropEnd]
      exact of_decide_eq_true filled
    · intro slash
      exact absurd (cut.ended '/' slash) (by decide)
  · rw [List.countP_eq_length_filter, volumes, List.length_map, countP_volumes]

def exporting : Recipe :=
  { start with
    baseDir := "/srv//"
    copies :=
      [.make "a" "" { target := some "/data/" }, .make "b" "" { target := some "/" },
        .make "c" "" { target := some "/off", exported := some false }, .make "d" "" {}]
    volumes := ["///", "/logs//", "/logs"] }

theorem render_volumes_exporting :
    ∃ text instructions paths, exporting.render = .ok text ∧ text = dockerfileText instructions ∧
      List.Forall₂ (Stripped (· = '/'))
        ["/data/", "/", "/srv//", "/srv//", "///", "/logs//", "/logs"] paths ∧
      instructions.filter (·.keyword = .volume) =
        (paths.filter (· ≠ "")).map (fun path => ⟨.volume, ["[\"" ++ path ++ "\"]"]⟩) ∧
      instructions.countP (·.keyword = .volume) = 5 := by
  obtain ⟨instructions, paths, written, same, stripped, volumes, _, count, _⟩ :=
    render_volumes exporting _ rfl
  exact ⟨_, instructions, paths, rfl, same, stripped, volumes, count.trans (by decide)⟩

end Recipe

end ImageRecipe
