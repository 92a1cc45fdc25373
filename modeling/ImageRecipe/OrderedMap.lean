/-!
Maps from texts in the order of first insertion. Putting a key twice keeps its first place and its
last value; no key stands in a map twice.
-/
namespace ImageRecipe

/-- The entries with `value` under `key`: in its place if the key is there, else at the end. -/
def putEntry {α : Type} (key : String) (value : α) : List (String × α) → List (String × α)
  | [] => [(key, value)]
  | entry :: entries =>
    if entry.1 = key then (key, value) :: entries else entry :: putEntry key value entries

theorem keys_putEntry {α : Type} (key : String) (value : α) (entries : List (String × α)) :
    (putEntry key value entries).map Prod.fst =
      if key ∈ entries.map Prod.fst then entries.map Prod.fst
      else entries.map Prod.fst ++ [key] := by
  induction entries with
  | nil => simp [putEntry]
  | cons entry entries ih =>
    by_cases same : entry.1 = key
    · simp [putEntry, same]
    · rw [putEntry, if_neg same, List.map_cons, ih]
      by_cases there : key ∈ entries.map Prod.fst
      · simp only [List.map_cons, List.mem_cons, there, or_true, if_true]
      · have absent : key ∉ (entry :: entries).map Prod.fst := by
          simp only [List.map_cons, List.mem_cons, not_or]
          exact ⟨Ne.symm same, there⟩
        rw [if_neg there, if_neg absent]
        rfl

theorem nodup_putEntry {α : Type} (key : String) (value : α) {entries : List (String × α)}
    (distinct : (entries.map Prod.fst).Nodup) :
    ((putEntry key value entries).map Prod.fst).Nodup := by
  rw [keys_putEntry]
  by_cases there : key ∈ entries.map Prod.fst
  · rwa [if_pos there]
  · rw [if_neg there, List.nodup_append]
    refine ⟨distinct, by simp, ?_⟩
    intro a ha b hb same
    rw [List.mem_singleton] at hb
    exact there (hb ▸ same ▸ ha)

theorem putEntry_of_notMem {α : Type} {key : String} (value : α) {entries : List (String × α)}
    (absent : key ∉ entries.map Prod.fst) :
    putEntry key value entries = entries ++ [(key, value)] := by
  induction entries with
  | nil => rfl
  | cons entry entries ih =>
    rw [List.map_cons, List.mem_cons, not_or] at absent
    rw [putEntry, if_neg (Ne.symm absent.1), ih absent.2, List.cons_append]

structure OrderedMap (α : Type) where
  toList : List (String × α)
  distinct : (toList.map Prod.fst).Nodup
deriving DecidableEq

namespace OrderedMap

variable {α β : Type}

def empty : OrderedMap α := ⟨[], List.nodup_nil⟩

instance : Inhabited (OrderedMap α) := ⟨empty⟩

instance [Repr α] : Repr (OrderedMap α) := ⟨fun m n => reprPrec m.toList n⟩

def keys (m : OrderedMap α) : List String := m.toList.map Prod.fst

def isEmpty (m : OrderedMap α) : Bool := m.toList.isEmpty

def get? (m : OrderedMap α) (key : String) : Option α := m.toList.lookup key

def put (m : OrderedMap α) (key : String) (value : α) : OrderedMap α :=
  ⟨putEntry key value m.toList, nodup_putEntry key value m.distinct⟩

def merge (m : OrderedMap α) (entries : List (String × α)) : OrderedMap α :=
  entries.foldl (fun m entry => m.put entry.1 entry.2) m

def ofList (entries : List (String × α)) : OrderedMap α := empty.merge entries

theorem ext {m n : OrderedMap α} (same : m.toList = n.toList) : m = n := by
  cases m; cases n; cases same; rfl

@[simp] theorem toList_empty : (empty : OrderedMap α).toList = [] := rfl

@[simp] theorem toList_put (m : OrderedMap α) (key : String) (value : α) :
    (m.put key value).toList = putEntry key value m.toList := rfl

@[simp] theorem merge_nil (m : OrderedMap α) : m.merge [] = m := rfl

@[simp] theorem merge_cons (m : OrderedMap α) (entry : String × α) (entries : List (String × α)) :
    m.merge (entry :: entries) = (m.put entry.1 entry.2).merge entries := rfl

theorem merge_append (m : OrderedMap α) (xs ys : List (String × α)) :
    m.merge (xs ++ ys) = (m.merge xs).merge ys := by
  simp [merge, List.foldl_append]

theorem toList_merge (m : OrderedMap α) {entries : List (String × α)}
    (distinct : ((m.toList ++ entries).map Prod.fst).Nodup) :
    (m.merge entries).toList = m.toList ++ entries := by
  induction entries generalizing m with
  | nil => simp
  | cons entry entries ih =>
    have absent : entry.1 ∉ m.toList.map Prod.fst := by
      rw [List.map_append, List.nodup_append] at distinct
      exact fun there => distinct.2.2 _ there _ List.mem_cons_self rfl
    have put : (m.put entry.1 entry.2).toList = m.toList ++ [entry] := putEntry_of_notMem _ absent
    have shifted : m.toList ++ [entry] ++ entries = m.toList ++ entry :: entries := by simp
    rw [merge_cons, ih _ (by rwa [put, shifted]), put, shifted]

theorem toList_ofList {entries : List (String × α)} (distinct : (entries.map Prod.fst).Nodup) :
    (ofList entries).toList = entries :=
  toList_merge empty distinct

end OrderedMap

end ImageRecipe
