import ImageRecipe.Proofs.OrderedMap
import ImageRecipe.Proofs.Recipe.WellFormed

/-!
Merging into the environment of a recipe that was built up by steps. No variable of such a recipe is
empty, so the check of the merged map comes down to the last values of the entries: old variables
are never blamed for what they held before.
-/
namespace ImageRecipe

theorem mem_of_lastValue? {α : Type} {entries : List (String × α)} {key : String} {value : α}
    (last : lastValue? entries key = some value) : key ∈ entries.map Prod.fst := by
  obtain ⟨before, after, split, _⟩ := List.lookup_eq_some_iff.mp last
  have member : (key, value) ∈ entries := by
    rw [← List.mem_reverse, split]
    simp
  exact List.mem_map_of_mem member

theorem mem_mergedKeys {α : Type} {old : List String} {entries : List (String × α)} {key : String} :
    key ∈ mergedKeys old entries ↔ key ∈ old ∨ key ∈ entries.map Prod.fst := by
  by_cases there : key ∈ old <;> simp [mergedKeys, there]

namespace Recipe

variable {r : Recipe} {entries : List (String × String)}

theorem get?_merge_eq_empty_iff (filled : ∀ entry ∈ r.env.toList, entry.2 ≠ "") (key : String) :
    (r.env.merge entries).get? key = some "" ↔ lastValue? entries key = some "" := by
  rw [OrderedMap.get?_merge]
  cases last : lastValue? entries key with
  | some value => simp
  | none =>
    have kept : r.env.get? key ≠ some "" := fun found => filled _ (r.env.mem_of_get? found) rfl
    simpa using kept

theorem fault?_env (filled : ∀ entry ∈ r.env.toList, entry.2 ≠ "") :
    (Step.env entries).fault? r =
      ((mergedKeys r.env.keys entries).find? fun key => lastValue? entries key = some "").map
        .emptyEnvValue := by
  have found := (r.env.merge entries).find?_keys fun value => value = some ""
  simp only [get?_merge_eq_empty_iff filled, OrderedMap.keys_merge, Option.some.injEq] at found
  rw [found]
  rfl

theorem fault?_env_eq_some_iff (filled : ∀ entry ∈ r.env.toList, entry.2 ≠ "") {fault : Fault} :
    (Step.env entries).fault? r = some fault ↔
      ∃ before key after, mergedKeys r.env.keys entries = before ++ key :: after ∧
        lastValue? entries key = some "" ∧
        (∀ other ∈ before, lastValue? entries other ≠ some "") ∧ fault = .emptyEnvValue key := by
  rw [fault?_env filled]
  simp only [Option.map_eq_some_iff, List.find?_eq_some_iff_append]
  constructor
  · rintro ⟨key, ⟨empty, before, after, split, others⟩, rfl⟩
    exact ⟨before, key, after, split, by simpa using empty, by simpa using others, rfl⟩
  · rintro ⟨before, key, after, split, empty, others, rfl⟩
    exact ⟨key, ⟨by simpa using empty, before, after, split, by simpa using others⟩, rfl⟩

theorem exists_fault?_env_iff (filled : ∀ entry ∈ r.env.toList, entry.2 ≠ "") :
    (∃ fault, (Step.env entries).fault? r = some fault) ↔
      ∃ key, lastValue? entries key = some "" := by
  rw [fault?_env filled]
  constructor
  · rintro ⟨_, blamed⟩
    obtain ⟨key, found, _⟩ := Option.map_eq_some_iff.mp blamed
    exact ⟨key, by simpa using List.find?_some found⟩
  · rintro ⟨key, empty⟩
    have listed : key ∈ mergedKeys r.env.keys entries :=
      mem_mergedKeys.mpr (.inr (mem_of_lastValue? empty))
    cases found : (mergedKeys r.env.keys entries).find? fun key => lastValue? entries key = some ""
      with
    | some first => exact ⟨_, rfl⟩
    | none => exact absurd empty (by simpa using List.find?_eq_none.mp found key listed)

theorem apply_env_append {second third : Recipe} {later : List (String × String)}
    (first : r.apply (.env entries) = .ok second) (next : second.apply (.env later) = .ok third) :
    r.apply (.env (entries ++ later)) = .ok third := by
  obtain ⟨_, rfl⟩ := apply_eq_ok_iff.mp first
  obtain ⟨faultless, rfl⟩ := apply_eq_ok_iff.mp next
  have together := r.env.merge_append entries later
  rw [apply_eq_ok_iff, Step.fault?, Step.effect, together]
  exact ⟨faultless, rfl⟩

/-- Merging entries into a recipe that steps have built fails exactly if the last value under one of
their keys is empty, and blames the first such key in the merged order. What succeeds keeps the old
variables in their places, adds the new ones where they first occur, and takes of every variable the
last value that is given, or else the old one. Merging twice is merging everything at once. -/
theorem apply_env (r : Recipe) (steps : List Step) (reached : start.run steps = r)
    (entries : List (String × String)) :
    ((∃ fault, r.apply (.env entries) = .error fault) ↔
      ∃ key, lastValue? entries key = some "") ∧
    (∀ fault, r.apply (.env entries) = .error fault ↔
      ∃ before key after, mergedKeys r.env.keys entries = before ++ key :: after ∧
        lastValue? entries key = some "" ∧
        (∀ other ∈ before, lastValue? entries other ≠ some "") ∧ fault = .emptyEnvValue key) ∧
    (∀ next, r.apply (.env entries) = .ok next →
      next = { r with env := next.env } ∧ next.env.keys = mergedKeys r.env.keys entries ∧
        ∀ key, next.env.get? key = (lastValue? entries key).or (r.env.get? key)) ∧
    ∀ later second third, r.apply (.env entries) = .ok second →
      second.apply (.env later) = .ok third → r.apply (.env (entries ++ later)) = .ok third := by
  have filled : ∀ entry ∈ r.env.toList, entry.2 ≠ "" :=
    reached ▸ (run_wellFormed start_wellFormed steps).envValues
  simp only [apply_eq_error_iff]
  refine ⟨exists_fault?_env_iff filled, fun _ => fault?_env_eq_some_iff filled, ?_,
    fun _ _ _ => apply_env_append⟩
  intro next accepted
  obtain ⟨_, rfl⟩ := apply_eq_ok_iff.mp accepted
  exact ⟨rfl, r.env.keys_merge entries, r.env.get?_merge entries⟩

def prepared : List Step := [.env [("A", "1"), ("B", "2")], .env [("C", "")]]

theorem apply_env_prepared :
    (∃ next, (start.run prepared).apply (.env [("D", ""), ("B", "3"), ("D", "4")]) = .ok next ∧
      next.env.keys = ["A", "B", "D"] ∧ next.env.get? "D" = some "4") ∧
    (start.run prepared).apply (.env [("D", ""), ("B", "")]) = .error (.emptyEnvValue "B") := by
  obtain ⟨_, _, merged, _⟩ := apply_env _ prepared rfl [("D", ""), ("B", "3"), ("D", "4")]
  obtain ⟨_, blamed, _⟩ := apply_env _ prepared rfl [("D", ""), ("B", "")]
  constructor
  · obtain ⟨_, keys, values⟩ := merged _ rfl
    exact ⟨_, rfl, keys.trans (by decide), (values "D").trans (by decide)⟩
  · exact (blamed _).mpr ⟨["A"], "B", ["D"], by decide, by decide, by decide, rfl⟩

end Recipe

end ImageRecipe
