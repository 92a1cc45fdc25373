import ImageRecipe.Proofs.Config.Building
import ImageRecipe.Proofs.Dockerfile.Layout
import ImageRecipe.Proofs.Dockerfile.Tokens

namespace ImageRecipe

namespace Config

variable {c : Config} {r : Recipe}

theorem plainEntries_eq_nil_iff (m : OrderedMap (Option String)) :
    plainEntries m = [] ↔ m.toList = [] := by
  rw [plainEntries, List.map_eq_nil_iff]

theorem toRecipe_env (accepted : c.toRecipe = .ok r) : r.env.toList = plainEntries c.env := by
  rw [(toRecipe_entered accepted).env, OrderedMap.toList_ofList (distinct_plainEntries c.env)]

theorem toRecipe_labels (accepted : c.toRecipe = .ok r) :
    r.labels.toList = plainEntries c.labels := by
  rw [(toRecipe_entered accepted).labels, OrderedMap.toList_ofList (distinct_plainEntries c.labels)]

theorem env_values (accepted : c.toRecipe = .ok r) :
    c.env.toList = (plainEntries c.env).map fun entry => (entry.1, some entry.2) := by
  have filled := (toRecipe_wellFormed accepted).envValues
  rw [toRecipe_env accepted] at filled
  have same : ∀ entry ∈ c.env.toList, (entry.1, some (entry.2.getD "")) = entry := by
    rintro ⟨key, value⟩ member
    cases value with
    | none => exact absurd rfl (filled (key, "") (List.mem_map.mpr ⟨_, member, rfl⟩))
    | some value => rfl
  rw [plainEntries, List.map_map]
  exact ((List.map_congr_left same).trans (List.map_id' c.env.toList)).symm

end Config

/-- A map as instructions of one keyword: none if the map is empty, else a single one, whose
arguments read as the entries, each key once. -/
structure Carried (k : Keyword) (m : OrderedMap (Option String))
    (instructions : List Instruction) : Prop where
  absent : (∀ i ∈ instructions, i.keyword ≠ k) ↔ m.toList = []
  present : m.toList ≠ [] → ∃ i args, instructions.filter (·.keyword = k) = [i] ∧
    i.inline = k.text ++ " " ++ args ∧ KeyValue.readEntries args = plainEntries m ∧
    ((KeyValue.readEntries args).map Prod.fst).Nodup

theorem inline_cons (k : Keyword) {args : List String} (filled : args ≠ []) :
    (Instruction.mk k args).inline = k.text ++ " " ++ " ".intercalate args :=
  String.intercalate_cons_of_ne_nil filled

theorem carried_of_oneIfAny {k : Keyword} {m : OrderedMap (Option String)}
    {instructions : List Instruction} (readable : ∀ key ∈ m.keys, KeyValue.Readable key)
    (one : OneIfAny (plainEntries m) ⟨k, KeyValue.tokens (plainEntries m)⟩
      (instructions.filter (·.keyword = k))) : Carried k m instructions := by
  have nothing : instructions.filter (·.keyword = k) = [] ↔ ∀ i ∈ instructions, i.keyword ≠ k := by
    simp [List.filter_eq_nil_iff]
  constructor
  · rw [← nothing, ← Config.plainEntries_eq_nil_iff]
    constructor
    · intro absent
      by_cases empty : plainEntries m = []
      · exact empty
      · rw [one.present empty] at absent
        cases absent
    · exact one.absent
  · intro nonempty
    have filled : plainEntries m ≠ [] := fun empty =>
      nonempty ((Config.plainEntries_eq_nil_iff m).mp empty)
    have written : KeyValue.tokens (plainEntries m) ≠ [] := by
      simpa [KeyValue.tokens] using filled
    have read := KeyValue.readEntries_tokens filled (by rwa [Config.keys_plainEntries])
    refine ⟨_, _, one.present filled, inline_cons k written, read, ?_⟩
    rw [read]
    exact Config.distinct_plainEntries m

/-- Environment and labels of a configuration that is accepted and rendered can be read from the
Dockerfile, in their order and with their values, however these are quoted there. -/
theorem Config.render_entries (c : Config) (r : Recipe) (text : String)
    (accepted : c.toRecipe = .ok r) (rendered : r.render = .ok text)
    (envKeys : ∀ key ∈ c.env.keys, KeyValue.Readable key)
    (labelKeys : ∀ key ∈ c.labels.keys, KeyValue.Readable key) :
    ∃ instructions, r.instructions = .ok instructions ∧ text = dockerfileText instructions ∧
      Carried .env c.env instructions ∧
      c.env.toList = (plainEntries c.env).map (fun entry => (entry.1, some entry.2)) ∧
      Carried .label c.labels instructions := by
  obtain ⟨instructions, written, rfl⟩ := Recipe.render_eq_ok_iff.mp rendered
  have layout := Recipe.instructions_layout written
  have env := Recipe.layout_section (k := .env) (by decide) (by decide) layout
  have label := Recipe.layout_section (k := .label) (by decide) (by decide) layout
  simp only [Recipe.Section, toRecipe_env accepted, toRecipe_labels accepted] at env label
  exact ⟨instructions, written, rfl, carried_of_oneIfAny envKeys env, env_values accepted,
    carried_of_oneIfAny labelKeys label⟩

def Config.nasty : Config :=
  { env := .ofList [("A", some "x=\"y \\\n\\"), ("", some " "), ("B", some "\\\" C=d")]
    labels := .ofList [("null", none), ("a\\b", some "\n\n"), ("last", some "")] }

theorem Config.render_entries_nasty :
    ∃ r text instructions, nasty.toRecipe = .ok r ∧ r.render = .ok text ∧
      r.instructions = .ok instructions ∧ text = dockerfileText instructions ∧
      Carried .env nasty.env instructions ∧ Carried .label nasty.labels instructions := by
  obtain ⟨instructions, written, same, env, _, labels⟩ :=
    render_entries nasty _ _ rfl rfl (by decide) (by decide)
  exact ⟨_, _, instructions, rfl, rfl, written, same, env, labels⟩

end ImageRecipe
