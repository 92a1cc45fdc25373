import ImageRecipe.Proofs.Config.Recipe
import ImageRecipe.Proofs.Text.Cutting

namespace ImageRecipe

/-- The entries of a list without their blank ends, in order. Of an entry that is blank altogether
nothing is left. -/
inductive Cleaned : List String → List String → Prop where
  | nil : Cleaned [] []
  | blank {entry : String} {entries texts : List String} :
    Text.TrimmedTo entry "" → Cleaned entries texts → Cleaned (entry :: entries) texts
  | visible {entry text : String} {entries texts : List String} :
    Text.TrimmedTo entry text → text ≠ "" → Cleaned entries texts →
      Cleaned (entry :: entries) (text :: texts)

inductive SameValue : Option String → Option String → Prop where
  | refl (value : Option String) : SameValue value value
  | missing : SameValue none (some "")
  | empty : SameValue (some "") none

def SameEntries (m n : OrderedMap (Option String)) : Prop :=
  List.Forall₂ (fun x y => x.1 = y.1 ∧ SameValue x.2 y.2) m.toList n.toList

variable {entries texts : List String} {m n : OrderedMap (Option String)}

theorem cleaned_trimmedEntries (entries : List String) :
    Cleaned entries (trimmedEntries entries) := by
  induction entries with
  | nil => exact .nil
  | cons entry entries ih =>
    have trimmed := Text.trimmedTo_trim entry
    by_cases blank : Text.trim entry = ""
    · rw [trimmedEntries, List.map_cons, List.filter_cons_of_neg (by simp [blank])]
      exact .blank (blank ▸ trimmed) ih
    · rw [trimmedEntries, List.map_cons, List.filter_cons_of_pos (by simp [blank])]
      exact .visible trimmed blank ih

theorem Cleaned.eq_trimmedEntries (cleaned : Cleaned entries texts) :
    texts = trimmedEntries entries := by
  induction cleaned with
  | nil => rfl
  | @blank entry _ _ trimmed _ ih =>
    have nothing : Text.trim entry = "" := (Text.trimmedTo_iff.mp trimmed).symm
    rw [trimmedEntries, List.map_cons, List.filter_cons_of_neg (by simp [nothing]), ih]
    rfl
  | @visible entry text _ _ trimmed filled _ ih =>
    obtain rfl := Text.trimmedTo_iff.mp trimmed
    rw [trimmedEntries, List.map_cons, List.filter_cons_of_pos (by simpa using filled), ih]
    rfl

theorem cleaned_iff : Cleaned entries texts ↔ texts = trimmedEntries entries := by
  constructor
  · exact Cleaned.eq_trimmedEntries
  · rintro rfl
    exact cleaned_trimmedEntries entries

theorem Cleaned.tidy (cleaned : Cleaned entries texts) :
    ∀ text ∈ texts, text ≠ "" ∧ Text.Trimmed text := by
  induction cleaned with
  | nil => simp
  | blank _ _ ih => exact ih
  | visible trimmed filled _ ih => exact List.forall_mem_cons.mpr ⟨⟨filled, trimmed.ends⟩, ih⟩

/-- Commands are cleaned by another test than ports and volumes, to the same effect. -/
theorem filter_visible (commands : List String) :
    (commands.map Text.trim).filter (!Text.isBlankText ·) = trimmedEntries commands := by
  apply List.filter_congr
  intro text member
  obtain ⟨command, _, rfl⟩ := List.mem_map.mp member
  have blank := (Text.trim_trimmed command).isBlankText_iff
  rw [Bool.eq_iff_iff, Bool.not_eq_true', decide_eq_true_iff, ← Bool.not_eq_true, blank]

theorem SameValue.getD_eq {v w : Option String} (same : SameValue v w) : v.getD "" = w.getD "" := by
  cases same <;> rfl

theorem plainEntries_congr (same : SameEntries m n) : plainEntries m = plainEntries n := by
  rw [plainEntries, plainEntries, ← List.forall₂_eq_eq_eq, List.forall₂_map_left_iff,
    List.forall₂_map_right_iff]
  exact same.imp fun x y alike => by rw [alike.1, alike.2.getD_eq]

namespace Config

def withoutEntries (c : Config) : Config :=
  { c with runs := [], ports := [], volumes := [], env := .empty, labels := .empty }

/-- Configurations that differ only in blank entries, in blank ends, and in that missing values of
the one are empty in the other. -/
structure SameButPadding (c d : Config) : Prop where
  rest : c.withoutEntries = d.withoutEntries
  ports : ∃ texts, Cleaned c.ports texts ∧ Cleaned d.ports texts
  volumes : ∃ texts, Cleaned c.volumes texts ∧ Cleaned d.volumes texts
  runs : ∃ texts, Cleaned c.runs texts ∧ Cleaned d.runs texts
  env : SameEntries c.env d.env
  labels : SameEntries c.labels d.labels

structure Cleans (c : Config) (r : Recipe) : Prop where
  ports : Cleaned c.ports r.ports
  volumes : Cleaned c.volumes r.volumes
  runs : Cleaned c.runs r.runs

variable {c d : Config} {r : Recipe}

theorem cleans_of_toRecipe (accepted : c.toRecipe = .ok r) : c.Cleans r := by
  rw [recipe_of_toRecipe accepted]
  exact ⟨cleaned_trimmedEntries c.ports, cleaned_trimmedEntries c.volumes,
    cleaned_iff.mpr (filter_visible c.runs)⟩

theorem trimmedEntries_congr {others : List String}
    (same : ∃ texts, Cleaned entries texts ∧ Cleaned others texts) :
    trimmedEntries entries = trimmedEntries others := by
  obtain ⟨texts, first, second⟩ := same
  rw [← first.eq_trimmedEntries, second.eq_trimmedEntries]

/-- The recipe of a configuration comes from the rest, from its entries as they are cleaned and from
its values with the missing ones filled in. -/
theorem toRecipe_withoutEntries (c : Config) :
    c.toRecipe = (do
      let _ ← c.withoutEntries.validate
      c.withoutEntries.checkTarget
      c.checkEnv
      return { c.withoutEntries.recipe with
        ports := trimmedEntries c.ports
        volumes := trimmedEntries c.volumes
        runs := trimmedEntries c.runs
        env := .ofList (plainEntries c.env)
        labels := .ofList (plainEntries c.labels) }) := by
  rw [toRecipe_eq, ← filter_visible c.runs]
  rfl

/-- Configurations that differ only in padding have the same recipe or the same fault. The ports,
volumes and commands of the recipe are the cleaned entries of either. -/
theorem padding_unused (c d : Config) (same : SameButPadding c d) :
    c.toRecipe = d.toRecipe ∧ ∀ r, c.toRecipe = .ok r → c.Cleans r ∧ d.Cleans r := by
  have recipe : c.toRecipe = d.toRecipe := by
    have env : c.checkEnv = d.checkEnv := by
      rw [checkEnv, checkEnv, plainEntries_congr same.env]
    rw [toRecipe_withoutEntries c, toRecipe_withoutEntries d, same.rest, env,
      trimmedEntries_congr same.ports, trimmedEntries_congr same.volumes,
      trimmedEntries_congr same.runs, plainEntries_congr same.env, plainEntries_congr same.labels]
  refine ⟨recipe, fun r accepted => ?_⟩
  exact ⟨cleans_of_toRecipe accepted, cleans_of_toRecipe (recipe ▸ accepted)⟩

def padded (env : OrderedMap (Option String)) : Config :=
  { ports := ["", " 80", "\u3000"]
    volumes := ["/data\n", "\t"]
    runs := [" ", "make  all\r\n"]
    env := env
    labels := .ofList [("empty", none), ("kept", some " ")] }

def unpadded (env : OrderedMap (Option String)) : Config :=
  { ports := ["80"]
    volumes := ["/data"]
    runs := ["make  all"]
    env := env
    labels := .ofList [("empty", some ""), ("kept", some " ")] }

theorem padded_same {m n : OrderedMap (Option String)} (env : SameEntries m n) :
    SameButPadding (padded m) (unpadded n) :=
  { rest := rfl
    ports := ⟨["80"], cleaned_iff.mpr rfl, cleaned_iff.mpr rfl⟩
    volumes := ⟨["/data"], cleaned_iff.mpr rfl, cleaned_iff.mpr rfl⟩
    runs := ⟨["make  all"], cleaned_iff.mpr rfl, cleaned_iff.mpr rfl⟩
    env := env
    labels := .cons ⟨rfl, .missing⟩ (.cons ⟨rfl, .refl _⟩ .nil) }

theorem padding_unused_padded :
    SameButPadding (padded .empty) (unpadded .empty) ∧
    (∃ r, (padded .empty).toRecipe = .ok r ∧ (unpadded .empty).toRecipe = .ok r ∧
      r.ports = ["80"] ∧ r.volumes = ["/data"] ∧ r.runs = ["make  all"]) ∧
    (padded (.ofList [("A", none)])).toRecipe = .error (.emptyEnvValue "A") ∧
    (unpadded (.ofList [("A", some "")])).toRecipe = .error (.emptyEnvValue "A") := by
  have nothing : SameEntries .empty .empty := .nil
  have missing : SameEntries (.ofList [("A", none)]) (.ofList [("A", some "")]) :=
    .cons ⟨rfl, .missing⟩ .nil
  have accepted : (padded .empty).toRecipe = .ok (padded .empty).recipe := rfl
  have refused : (padded (.ofList [("A", none)])).toRecipe = .error (.emptyEnvValue "A") := rfl
  have recipe := (padding_unused _ _ (padded_same nothing)).1
  have fault := (padding_unused _ _ (padded_same missing)).1
  exact ⟨padded_same nothing, ⟨_, accepted, recipe.symm.trans accepted, rfl, rfl, rfl⟩, refused,
    fault.symm.trans refused⟩

end Config

end ImageRecipe
