import ImageRecipe.Config.Data
import ImageRecipe.Proofs.Yaml.Numeral
import ImageRecipe.Proofs.Yaml.Reading

/-!
Reading plain data back. A reader restores a value from its data if it gives the value wherever the
data stands and enough collections may still be entered, and it refuses data of which it gives no
value at all. Both are passed on from the items of a list, the entries of a map and the fields of a
record to the whole.
-/
namespace ImageRecipe

open Yaml

variable {α β γ : Type} {levels : Nat}

/-- The reader gives the value, without following an alias, at every place from where `levels` more
collections may be entered. -/
def Restores (reads : Spot → Reads α) (levels : Nat) (d : Data) (a : α) : Prop :=
  ∀ path depth, levels ≤ depth → reads ⟨path, d.node, depth⟩ = pure a

/-- The reader gives no value at any such place. -/
def Refuses (reads : Spot → Reads α) (levels : Nat) (d : Data) : Prop :=
  ∀ path depth, levels ≤ depth → Gives (fun _ => False) (reads ⟨path, d.node, depth⟩)

namespace Data

theorem nodes_eq (items : List Data) : nodes items = items.map node := by
  induction items with
  | nil => rfl
  | cons item items ih => rw [nodes, ih, List.map_cons]

theorem entryNodes_eq (entries : List (String × Data)) :
    entryNodes entries = entries.map fun e => (scalar .doubleQuoted e.1, e.2.node) := by
  induction entries with
  | nil => rfl
  | cons entry entries ih => rw [entryNodes, ih, List.map_cons]

def spots (path : Path) (depth : Nat) (entries : List (String × Data)) : List (Spot × Spot) :=
  entries.map fun e =>
    (⟨path, scalar .doubleQuoted e.1, depth⟩, ⟨path.entry e.1, e.2.node, depth⟩)

theorem spots_cons (path : Path) (depth : Nat) (key : String) (d : Data)
    (entries : List (String × Data)) :
    spots path depth ((key, d) :: entries) =
      (⟨path, scalar .doubleQuoted key, depth⟩, ⟨path.entry key, d.node, depth⟩) ::
        spots path depth entries := rfl

theorem mem_spots {key : String} {d : Data} {entries : List (String × Data)}
    (member : (key, d) ∈ entries) (path : Path) (depth : Nat) :
    (⟨path, scalar .doubleQuoted key, depth⟩, ⟨path.entry key, d.node, depth⟩) ∈
      spots path depth entries :=
  List.mem_map.mpr ⟨(key, d), member, rfl⟩

theorem follow_node (d : Data) (path : Path) (depth : Nat) :
    Spot.follow ⟨path, d.node, depth⟩ = pure ⟨path, d.node, depth⟩ := by
  cases d <;> rfl

theorem textAs_key (key expected : String) (path : Path) (depth : Nat) :
    Spot.textAs expected ⟨path, scalar .doubleQuoted key, depth⟩ = pure key := rfl

theorem entries_map (entries : List (String × Data)) (expected : String) (path : Path)
    (depth : Nat) :
    Spot.entries expected ⟨path, (map entries).node, depth + 1⟩ =
      pure (spots path depth entries) := by
  have opened (nodes : List (Node Nat × Node Nat)) :
      Spot.entries expected ⟨path, .mapping none none nodes .start, depth + 1⟩ =
        pure (nodes.map (Spot.entrySpots path depth)) := rfl
  rw [node, opened, entryNodes_eq, List.map_map]
  rfl

end Data

theorem restores_text (s : String) : Restores Spot.text levels (.text s) s :=
  fun _ _ _ => rfl

theorem restores_flag (b : Bool) : Restores Spot.flag levels (.bool b) b := by
  intro path depth _
  cases b <;> rfl

theorem restores_count (n : UInt32) : Restores Spot.count levels (.number n) n := by
  intro path depth _
  have fits : n.toNat < Decimal.twoTo 64 := by
    have small := n.toNat_lt
    have power : Decimal.twoTo 64 = 2 ^ 64 := rfl
    omega
  have readable : Spot.isReadable Scalar.intTag none .plain = true := rfl
  rw [Spot.count, Data.follow_node, pure_bind]
  simp only [Data.node, Data.scalar, readable, Scalar.natural?_repr fits, n.toNat_lt, if_true,
    UInt32.ofNat_toNat]

theorem restores_none (reads : Spot → Reads α) : Restores (Spot.optional reads) levels .null none :=
  fun _ _ _ => rfl

theorem optional_node {d : Data} (value : d ≠ .null) (reads : Spot → Reads α) (path : Path)
    (depth : Nat) :
    Spot.optional reads ⟨path, d.node, depth⟩ =
      reads ⟨path, d.node, depth⟩ >>= fun a => pure (some a) := by
  cases d with
  | null => exact absurd rfl value
  | bool b => cases b <;> rfl
  | number n =>
    have present : Spot.isAbsent none .plain n.toNat.repr = .ok false := by
      simp [Spot.isAbsent, Nat.repr_ne_empty, Scalar.isNullWord_repr]
    rw [Spot.optional, Data.follow_node, pure_bind]
    simp only [Data.node, Data.scalar, present]
  | _ => rfl

theorem restores_some {reads : Spot → Reads α} {d : Data} {a : α} (value : d ≠ .null)
    (restored : Restores reads levels d a) : Restores (Spot.optional reads) levels d (some a) := by
  intro path depth enough
  rw [optional_node value, restored path depth enough, pure_bind]

theorem refuses_optional {reads : Spot → Reads α} {d : Data} (value : d ≠ .null)
    (refused : Refuses reads levels d) : Refuses (Spot.optional reads) levels d := by
  intro path depth enough
  rw [optional_node value]
  exact gives_none_bind (refused path depth enough)

theorem mapM_spots {reads : Spot → Reads γ} {data : β → Data} {value : β → γ}
    (spot : Nat → Node Nat → Spot) (items : List β)
    (each : ∀ index, ∀ b ∈ items, reads (spot index (data b).node) = pure (value b)) :
    (((items.map data).map Data.node).mapIdx spot).mapM reads = pure (items.map value) := by
  induction items generalizing spot with
  | nil => rfl
  | cons b items ih =>
    have tail := ih (fun index => spot (index + 1))
      fun index other member => each (index + 1) other (.tail b member)
    simp only [List.map_cons, List.mapIdx_cons, List.mapM_cons, each 0 b List.mem_cons_self,
      pure_bind] at tail ⊢
    rw [tail, pure_bind]

theorem restores_list {reads : Spot → Reads β} {data : β → Data} {items : List β}
    (each : ∀ b ∈ items, Restores reads levels (data b) b) :
    Restores (Spot.list reads) (levels + 1) (.list (items.map data)) items := by
  rintro path (_ | depth) enough
  · cases enough
  · have opened (nodes : List (Node Nat)) :
        Spot.list reads ⟨path, .sequence none none nodes .start, depth + 1⟩ =
          Spot.placing ⟨path, .sequence none none nodes .start, depth + 1⟩
            ((Spot.itemSpots path depth nodes).mapM reads) := rfl
    have read : (Spot.itemSpots path depth ((items.map data).map Data.node)).mapM reads =
        pure (items.map id) :=
      mapM_spots _ items fun index b member => each b member _ _ (Nat.le_of_succ_le_succ enough)
    rw [Data.node, opened, Data.nodes_eq, read, List.map_id]
    rfl

theorem foldlM_spots {reads : Spot → Reads β} {data : β → Data} (path : Path) (depth : Nat)
    (entries : List (String × β))
    (each : ∀ entry ∈ entries,
      reads ⟨path.entry entry.1, (data entry.2).node, depth⟩ = pure entry.2)
    (m : OrderedMap β) :
    (Data.spots path depth (entries.map fun entry => (entry.1, data entry.2))).foldlM
        (fun m (key, value) => do
          let key ← key.text
          return m.put key (← reads value)) m =
      (pure (m.merge entries) : Reads (OrderedMap β)) := by
  induction entries generalizing m with
  | nil => rfl
  | cons entry entries ih =>
    have tail := ih (fun other member => each other (.tail entry member)) (m.put entry.1 entry.2)
    have head := each entry List.mem_cons_self
    simp only [List.map_cons, Data.spots_cons, List.foldlM_cons, Spot.text, Data.textAs_key, head,
      pure_bind] at tail ⊢
    exact tail

theorem restores_map {reads : Spot → Reads β} {data : β → Data} {m : OrderedMap β}
    (each : ∀ entry ∈ m.toList, Restores reads levels (data entry.2) entry.2) :
    Restores (Spot.map reads) (levels + 1) (m.data data) m := by
  rintro path (_ | depth) enough
  · cases enough
  · have whole : OrderedMap.empty.merge m.toList = m :=
      OrderedMap.ext (OrderedMap.toList_ofList m.distinct)
    have read := foldlM_spots path depth m.toList
      (fun entry member => each entry member _ _ (Nat.le_of_succ_le_succ enough)) .empty
    rw [Spot.map, OrderedMap.data, Data.follow_node, pure_bind, Data.entries_map, pure_bind, read,
      whole]
    rfl

theorem restores_content_text (s : String) : Restores Spot.content levels (.text s) (.text s) := by
  intro path depth _
  rw [Spot.content, Spot.contentWithin]
  rfl

theorem restores_content_list {data : β → Data} {content : β → Content} {items : List β}
    (each : ∀ b ∈ items, Restores Spot.content levels (data b) (content b)) :
    Restores Spot.content (levels + 1) (.list (items.map data)) (.list (items.map content)) := by
  rintro path (_ | depth) enough
  · cases enough
  · have opened (nodes : List (Node Nat)) :
        Spot.content ⟨path, .sequence none none nodes .start, depth + 1⟩ =
          (Spot.itemSpots path depth nodes).mapM (Spot.contentWithin depth) >>= fun contents =>
            pure (.list contents) := by
      rw [Spot.content, Spot.contentWithin]
      rfl
    have read : (Spot.itemSpots path depth ((items.map data).map Data.node)).mapM
        (Spot.contentWithin depth) = pure (items.map content) :=
      mapM_spots _ items fun index b member => each b member _ _ (Nat.le_of_succ_le_succ enough)
    rw [Data.node, opened, Data.nodes_eq, read, pure_bind]

theorem restores_content_entry {key : String} {d : Data} {content : Content}
    (value : Restores Spot.content levels d content) :
    Restores Spot.content (levels + 1) (.map [(key, d)]) (.map [(.text key, content)]) := by
  rintro path (_ | depth) enough
  · cases enough
  · have opened : Spot.content ⟨path, (Data.map [(key, d)]).node, depth + 1⟩ =
        (Data.spots path depth [(key, d)]).mapM
          (fun spots => return (← spots.1.content, ← spots.2.content)) >>= fun contents =>
            pure (.map contents) := by
      rw [Spot.content, Spot.contentWithin]
      rfl
    have keyRead : Spot.content ⟨path, Data.scalar .doubleQuoted key, depth⟩ = pure (.text key) :=
      restores_content_text key path depth (Nat.zero_le depth)
    have valueRead := value (path.entry key) depth (Nat.le_of_succ_le_succ enough)
    have empty : Data.spots path depth [] = [] := rfl
    simp only [opened, Data.spots_cons, empty, List.mapM_cons, List.mapM_nil, keyRead, valueRead,
      pure_bind]

theorem value_of_restores {reads : Spot → Reads α} {d : Data} {a : α}
    (restored : Restores reads levels d a) (enough : levels ≤ nestingLimit) :
    d.document.value reads = .ok a := by
  have root : reads (.atRoot d.document) = pure a := restored .root nestingLimit enough
  rw [Document.value, root]
  rfl

theorem value_of_refuses {reads : Spot → Reads α} {d : Data} (refused : Refuses reads levels d)
    (enough : levels ≤ nestingLimit) : ∃ error, d.document.value reads = .error error := by
  have root : Gives (fun _ => False) (reads (.atRoot d.document)) :=
    refused .root nestingLimit enough
  cases outcome : d.document.value reads with
  | error error => exact ⟨error, rfl⟩
  | ok a =>
    obtain ⟨⟨a, later⟩, given, rfl⟩ := map_eq_ok_iff.mp outcome
    exact (root d.document 0 a later given).elim

end ImageRecipe
