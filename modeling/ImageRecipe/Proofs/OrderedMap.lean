import Mathlib.Data.List.Find
import ImageRecipe.OrderedMap

namespace ImageRecipe

variable {α : Type}

/-- The value of the last entry under a key. -/
def lastValue? (entries : List (String × α)) (key : String) : Option α :=
  entries.reverse.lookup key

/-- The keys that are there, and behind them the others of the entries where they first occur. -/
def mergedKeys (old : List String) (entries : List (String × α)) : List String :=
  old ++ ((entries.map Prod.fst).filter (· ∉ old)).eraseDups

theorem lookup_entry (entry : String × α) (entries : List (String × α)) (key : String) :
    (entry :: entries).lookup key =
      if key = entry.1 then some entry.2 else entries.lookup key := by
  obtain ⟨name, value⟩ := entry
  by_cases same : key = name
  · simp [same]
  · simp [List.lookup_cons, beq_false_of_ne same, same]

theorem lastValue?_cons (entry : String × α) (entries : List (String × α)) (key : String) :
    lastValue? (entry :: entries) key =
      (lastValue? entries key).or (if key = entry.1 then some entry.2 else none) := by
  simp only [lastValue?, List.reverse_cons, List.lookup_append, lookup_entry, List.lookup_nil]

theorem mergedKeys_cons (old : List String) (entry : String × α) (entries : List (String × α)) :
    mergedKeys old (entry :: entries) =
      mergedKeys (if entry.1 ∈ old then old else old ++ [entry.1]) entries := by
  by_cases there : entry.1 ∈ old
  · simp [mergedKeys, there]
  · -- what repeats the new key is dropped here because it stood before, there because it is old
    have later : ((entries.map Prod.fst).filter (· ∉ old)).filter (fun key => !key == entry.1) =
        (entries.map Prod.fst).filter (· ∉ old ++ [entry.1]) := by
      rw [List.filter_filter]
      apply List.filter_congr
      intro key _
      by_cases same : key = entry.1 <;> simp [same]
    have here : ((entry :: entries).map Prod.fst).filter (· ∉ old) =
        entry.1 :: (entries.map Prod.fst).filter (· ∉ old) := by
      simp [there]
    rw [mergedKeys, mergedKeys, here, List.eraseDups_cons, later, if_neg there, List.append_assoc]
    rfl

theorem lookup_putEntry (key other : String) (value : α) (entries : List (String × α)) :
    (putEntry key value entries).lookup other =
      if other = key then some value else entries.lookup other := by
  induction entries with
  | nil => simp [putEntry, lookup_entry]
  | cons entry entries ih =>
    by_cases taken : entry.1 = key
    · by_cases same : other = key <;> simp [putEntry, lookup_entry, taken, same]
    · by_cases same : other = entry.1
      · simp [putEntry, lookup_entry, taken, same]
      · simp [putEntry, lookup_entry, taken, same, ih]

theorem lookup_of_mem {entries : List (String × α)} (distinct : (entries.map Prod.fst).Nodup)
    {entry : String × α} (member : entry ∈ entries) : entries.lookup entry.1 = some entry.2 := by
  induction entries with
  | nil => cases member
  | cons first entries ih =>
    rw [List.map_cons, List.nodup_cons] at distinct
    rcases List.mem_cons.mp member with rfl | later
    · simp [lookup_entry]
    · have other : entry.1 ≠ first.1 := fun same =>
        distinct.1 (same ▸ List.mem_map_of_mem later)
      simp [lookup_entry, other, ih distinct.2 later]

namespace OrderedMap

theorem get?_of_mem (m : OrderedMap α) {entry : String × α} (member : entry ∈ m.toList) :
    m.get? entry.1 = some entry.2 :=
  lookup_of_mem m.distinct member

theorem mem_of_get? (m : OrderedMap α) {key : String} {value : α}
    (found : m.get? key = some value) : (key, value) ∈ m.toList := by
  obtain ⟨before, after, split, _⟩ := List.lookup_eq_some_iff.mp found
  simp [split]

theorem keys_merge (m : OrderedMap α) (entries : List (String × α)) :
    (m.merge entries).keys = mergedKeys m.keys entries := by
  induction entries generalizing m with
  | nil => simp [mergedKeys]
  | cons entry entries ih =>
    have put : (m.put entry.1 entry.2).keys =
        if entry.1 ∈ m.keys then m.keys else m.keys ++ [entry.1] := keys_putEntry _ _ _
    rw [merge_cons, ih, put, mergedKeys_cons]

theorem get?_merge (m : OrderedMap α) (entries : List (String × α)) (key : String) :
    (m.merge entries).get? key = (lastValue? entries key).or (m.get? key) := by
  induction entries generalizing m with
  | nil => rfl
  | cons entry entries ih =>
    have put : (m.put entry.1 entry.2).get? key =
        if key = entry.1 then some entry.2 else m.get? key := lookup_putEntry _ _ _ _
    rw [merge_cons, ih, put, lastValue?_cons, Option.or_assoc]
    by_cases same : key = entry.1 <;> simp [same]

/-- Entries are found by their values as keys are by the values under them. -/
theorem find?_keys (m : OrderedMap α) (p : Option α → Bool) :
    m.keys.find? (fun key => p (m.get? key)) =
      (m.toList.find? fun entry => p (some entry.2)).map Prod.fst := by
  rw [keys, List.find?_map]
  congr 1
  apply List.find?_congr
  intro entry member
  rw [Function.comp_apply, m.get?_of_mem member]

end OrderedMap

end ImageRecipe
