import ImageRecipe.Proofs.Dockerfile.Variation
import ImageRecipe.Proofs.Dockerfile.Volumes

namespace ImageRecipe

/-- What a volume may come from. -/
inductive VolumeSource where
  | target (rule : CopyRule)
  | baseDir
  | listed (path : String)

namespace VolumeSource

def flag (r : Recipe) : VolumeSource → Option Bool
  | target rule => rule.placement.exported
  | baseDir => r.exportBaseDir
  | listed _ => some true

def path (r : Recipe) : VolumeSource → String
  | target rule => rule.placement.target.getD r.baseDir
  | baseDir => r.baseDir
  | listed path => path

end VolumeSource

namespace Recipe

variable {r : Recipe}

def volumeSources (r : Recipe) : List VolumeSource :=
  r.copies.map .target ++ [.baseDir] ++ r.volumes.map .listed

def exportedSources (r : Recipe) : List VolumeSource :=
  r.volumeSources.filter fun source => r.Exports (source.flag r)

def volumeOf? (r : Recipe) (source : VolumeSource) : Option Instruction :=
  (volume? (source.path r)).map fun path => ⟨.volume, [tokenArray [path]]⟩

def withImage (r : Recipe) (image : String) : Recipe := { r with baseImage := some image }

theorem exportedPaths_sources (r : Recipe) :
    r.exportedPaths = r.exportedSources.map (·.path r) := by
  let exported (source : VolumeSource) : Bool := decide (r.Exports (source.flag r))
  have targets : (r.copies.map .target).filter exported =
      (r.copies.filter fun rule => r.Exports rule.placement.exported).map .target :=
    List.filter_map
  have base : [VolumeSource.baseDir].filter exported =
      if r.Exports r.exportBaseDir then [.baseDir] else [] := by
    by_cases yes : r.Exports r.exportBaseDir <;> simp [exported, VolumeSource.flag, yes]
  have listed : (r.volumes.map .listed).filter exported = r.volumes.map .listed := by
    rw [List.filter_eq_self]
    simp [exported, VolumeSource.flag, Exports]
  have sources : r.exportedSources =
      (r.copies.filter fun rule => r.Exports rule.placement.exported).map .target ++
        (if r.Exports r.exportBaseDir then [.baseDir] else []) ++ r.volumes.map .listed := by
    rw [exportedSources, volumeSources, List.filter_append, List.filter_append, targets, base,
      listed]
  rw [exportedPaths, exportedTargets, sources]
  split <;> simp [VolumeSource.path, Function.comp_def]

theorem volumeInstructions_sources (r : Recipe) :
    r.volumeInstructions = r.exportedSources.filterMap r.volumeOf? := by
  rw [volumeInstructions, filterMap_volumePaths, exportedPaths_sources, List.filterMap_map,
    List.map_filterMap]
  rfl

theorem flag_withImage (image : String) (source : VolumeSource) :
    source.flag (r.withImage image) = source.flag r := by
  cases source <;> rfl

/-- With a base image, a source without a flag is no longer exported. -/
theorem exportedSources_withImage (unset : r.baseImage = none) (image : String) :
    (r.withImage image).exportedSources = r.exportedSources.filter (·.flag r ≠ none) := by
  have sources : (r.withImage image).volumeSources = r.volumeSources := rfl
  rw [exportedSources, exportedSources, sources, List.filter_filter]
  apply List.filter_congr
  intro source _
  rw [flag_withImage]
  rcases source.flag r with _ | _ | _ <;> simp [Exports, withImage, unset]

theorem volumeOf?_withImage (image : String) :
    (r.withImage image).volumeOf? = r.volumeOf? := by
  funext source
  cases source <;> rfl

theorem writtenSection_withImage {k : Keyword} (image : String) (ports : List String)
    (notImage : k ≠ .image) (notVolume : k ≠ .volume) :
    r.writtenSection ports k = (r.withImage image).writtenSection ports k := by
  cases k with
  | image => exact absurd rfl notImage
  | volume => exact absurd rfl notVolume
  | copy => exact writtenSection_copy_congr rfl rfl rfl
  | _ => rfl

theorem instructionsWith_tail (r : Recipe) (ports : List String) :
    r.instructionsWith ports =
      ⟨.image, [r.image]⟩ :: Keyword.order.tail.flatMap (r.writtenSection ports) := by
  rw [instructionsWith_eq]
  rfl

theorem filter_flag_of_set (rules : ∀ rule ∈ r.copies, rule.placement.exported ≠ none)
    (base : r.exportBaseDir ≠ none) :
    r.exportedSources.filter (·.flag r ≠ none) = r.exportedSources := by
  rw [List.filter_eq_self]
  intro source member
  have known : source ∈ r.volumeSources := (List.mem_filter.mp member).1
  simp only [volumeSources, List.mem_append, List.mem_map, List.mem_singleton] at known
  rcases known with (⟨rule, there, rfl⟩ | rfl) | ⟨path, _, rfl⟩
  · exact decide_eq_true (rules rule there)
  · exact decide_eq_true base
  · rfl

theorem writes_withImage (unset : r.baseImage = none) (image : String) :
    (∃ fault, r.render = .error fault ∧ (r.withImage image).render = .error fault) ∨
      ∃ front back, (∀ i ∈ front ++ back, i.keyword ≠ .volume) ∧
        r.Writes (⟨.image, ["busybox:latest"]⟩ ::
          (front ++ r.exportedSources.filterMap r.volumeOf? ++ back)) ∧
        (r.withImage image).Writes (⟨.image, [image]⟩ ::
          (front ++ (r.exportedSources.filter (·.flag r ≠ none)).filterMap r.volumeOf? ++
            back)) := by
  have same : (r.withImage image).check = r.check := rfl
  have standIn : r.image = "busybox:latest" := by simp [Recipe.image, unset, defaultImage]
  rcases check_cases same with refused | ⟨ports, plain, named⟩
  · exact .inl refused
  · obtain ⟨front, back, around, first, second⟩ := sections_differ plain
      (by decide : Keyword.order.tail.Nodup) (by decide) (by decide : Keyword.volume ≠ .user)
      fun j later other => writtenSection_withImage image ports
        (by rintro rfl; exact absurd later (by decide)) other
    refine .inr ⟨front, back, around, ?_, ?_⟩
    · have written := writes_of_check plain
      rwa [instructionsWith_tail, standIn, first, writtenSection,
        volumeInstructions_sources] at written
    · have written := writes_of_check named
      rwa [instructionsWith_tail, second, writtenSection, volumeInstructions_sources,
        exportedSources_withImage unset, volumeOf?_withImage] at written

/-- A base image makes a difference in two places. A recipe without one and the same recipe with one
fail for the same fault; or they give the same instructions but for the name of the image and but
for the volumes from sources without a flag, which a recipe with a base image does not have. So
where all flags are set, the image that stands in for a missing one may as well be named. -/
theorem render_withImage (r : Recipe) (unset : r.baseImage = none) :
    (∀ image,
      (∃ fault, r.render = .error fault ∧ (r.withImage image).render = .error fault) ∨
      ∃ front back, (∀ i ∈ front ++ back, i.keyword ≠ .volume) ∧
        r.Writes (⟨.image, ["busybox:latest"]⟩ ::
          (front ++ r.exportedSources.filterMap r.volumeOf? ++ back)) ∧
        (r.withImage image).Writes (⟨.image, [image]⟩ ::
          (front ++ (r.exportedSources.filter (·.flag r ≠ none)).filterMap r.volumeOf? ++ back))) ∧
    ((∀ rule ∈ r.copies, rule.placement.exported ≠ none) → r.exportBaseDir ≠ none →
      (r.withImage "busybox:latest").render = r.render) := by
  refine ⟨writes_withImage unset, ?_⟩
  intro rules base
  rcases writes_withImage unset "busybox:latest" with
    ⟨fault, plain, named⟩ | ⟨front, back, _, plain, named⟩
  · rw [plain, named]
  · rw [filter_flag_of_set rules base] at named
    rw [plain.rendered, named.rendered]

def unnamed : Recipe :=
  { start with
    copies :=
      [.make "a" "" {}, .make "b" "" { target := some "/b", exported := some true },
        .make "c" "" { exported := some false }]
    volumes := ["/logs/"]
    user := some "app" }

theorem render_withImage_unnamed :
    (∃ front back,
      unnamed.Writes (⟨.image, ["busybox:latest"]⟩ :: (front ++
        [⟨.volume, ["[\"/maven\"]"]⟩, ⟨.volume, ["[\"/b\"]"]⟩, ⟨.volume, ["[\"/maven\"]"]⟩,
          ⟨.volume, ["[\"/logs\"]"]⟩] ++ back)) ∧
      (unnamed.withImage "alpine").Writes (⟨.image, ["alpine"]⟩ :: (front ++
        [⟨.volume, ["[\"/b\"]"]⟩, ⟨.volume, ["[\"/logs\"]"]⟩] ++ back))) ∧
    ({ start with exportBaseDir := some true }.withImage "busybox:latest").render =
      { start with exportBaseDir := some true }.render := by
  obtain ⟨outcome, _⟩ := render_withImage unnamed rfl
  obtain ⟨_, flagged⟩ := render_withImage { start with exportBaseDir := some true } rfl
  refine ⟨?_, flagged (by decide) (by decide)⟩
  rcases outcome "alpine" with ⟨fault, refused, _⟩ | ⟨front, back, _, plain, named⟩
  · cases refused
  · exact ⟨front, back, plain, named⟩

end Recipe

end ImageRecipe
