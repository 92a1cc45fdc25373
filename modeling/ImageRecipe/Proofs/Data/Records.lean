import ImageRecipe.Proofs.Data.Restoring

namespace ImageRecipe

open Yaml

variable {α β : Type} {levels : Nat}

namespace Data

def present (entries : List (String × Option Data)) : List (String × Data) :=
  entries.filterMap fun entry => entry.2.map fun value => (entry.1, value)

theorem present_some (name : String) (d : Data) (entries : List (String × Option Data)) :
    present ((name, some d) :: entries) = (name, d) :: present entries := rfl

theorem mem_present {name : String} {d : Data} {entries : List (String × Option Data)}
    (member : (name, some d) ∈ entries) : (name, d) ∈ present entries :=
  List.mem_filterMap.mpr ⟨_, member, rfl⟩

theorem entries_compact (entries : List (String × Option Data)) (expected : String) (path : Path)
    (depth : Nat) :
    Spot.entries expected ⟨path, (compact entries).node, depth + 1⟩ =
      pure (spots path depth (present entries)) :=
  entries_map (present entries) expected path depth

theorem compact_ne_null (entries : List (String × Option Data)) : compact entries ≠ .null := nofun

end Data

namespace Yaml.RecordField

/-- The entry of a field turns one record into the other. One that is left out changes nothing. -/
def Takes (field : RecordField α) (levels : Nat) (entry : Option Data) (a b : α) : Prop :=
  match entry with
  | none => b = a
  | some d => Restores (fun s => field.read s a) levels d b

section

variable {name : String} {reads : Spot → Reads β} {data : β → Data} {a : α}

theorem takes_value {put : β → α → α} {d : Data} {v : β} (restored : Restores reads levels d v) :
    (of name reads put).Takes levels (some d) a (put v a) := by
  intro path depth enough
  change (reads ⟨path, d.node, depth⟩ >>= fun v => pure (put v a)) = pure (put v a)
  rw [restored path depth enough, pure_bind]

theorem takes_optional {put : Option β → α → α} {v : Option β} (unset : put none a = a)
    (value : ∀ b, data b ≠ .null) (each : ∀ b ∈ v, Restores reads levels (data b) b) :
    (of name (Spot.optional reads) put).Takes levels (v.map data) a (put v a) := by
  cases v with
  | none => exact unset
  | some b => exact takes_value (restores_some (value b) (each b rfl))

theorem takes_list {put : List β → α → α} {items : List β} (unset : put [] a = a)
    (each : ∀ b ∈ items, Restores reads levels (data b) b) :
    (of name (Spot.list reads) put).Takes (levels + 1) (Data.unlessEmpty data items) a
      (put items a) := by
  cases items with
  | nil => exact unset
  | cons b items => exact takes_value (restores_list each)

theorem takes_text {put : Option String → α → α} {v : Option String} (unset : put none a = a) :
    (of name (Spot.optional Spot.text) put).Takes levels (v.map .text) a (put v a) :=
  takes_optional unset (fun _ => nofun) fun _ _ => restores_text _

theorem takes_flag {put : Option Bool → α → α} {v : Option Bool} (unset : put none a = a) :
    (of name (Spot.optional Spot.flag) put).Takes levels (v.map .bool) a (put v a) :=
  takes_optional unset (fun _ => nofun) fun _ _ => restores_flag _

theorem takes_texts {put : List String → α → α} {items : List String} (unset : put [] a = a) :
    (of name (Spot.list Spot.text) put).Takes (levels + 1) (Data.unlessEmpty .text items) a
      (put items a) :=
  takes_list unset fun _ _ => restores_text _

theorem takes_textMap {put : Option (OrderedMap String) → α → α} {v : Option (OrderedMap String)}
    (unset : put none a = a) :
    (of name (Spot.optional (Spot.map Spot.text)) put).Takes (levels + 1) (v.map (·.data .text)) a
      (put v a) :=
  takes_optional unset (fun _ => nofun) fun _ _ => restores_map fun _ _ => restores_text _

theorem takes_textData {put : OrderedMap (Option String) → α → α} {m : OrderedMap (Option String)}
    (unset : put .empty a = a) :
    (of name (Spot.map (Spot.optional Spot.text)) put).Takes (levels + 1) m.textData? a
      (put m a) := by
  have value (v : Option String) :
      Restores (Spot.optional Spot.text) levels (Data.textOrNull v) v := by
    cases v with
    | none => exact restores_none _
    | some s => exact restores_some nofun (restores_text s)
  rw [OrderedMap.textData?]
  split
  · rename_i empty
    have nothing : m = .empty := OrderedMap.ext (List.isEmpty_iff.mp empty)
    rw [nothing, unset]
    rfl
  · exact takes_value (restores_map fun entry _ => value entry.2)

theorem refuses_value {put : β → α → α} {d : Data} (refused : Refuses reads levels d) (a : α) :
    Refuses (fun s => (of name reads put).read s a) levels d :=
  fun path depth enough => gives_none_bind (refused path depth enough)

end

end Yaml.RecordField

variable {fields all : List (RecordField α)} {entries : List (String × Option Data)} {a b : α}

/-- The entries of a record, one for each of its fields, turn one record into another. -/
inductive Takes (levels : Nat) :
    List (RecordField α) → List (String × Option Data) → α → α → Prop
  | nil (a : α) : Takes levels [] [] a a
  | cons {field : RecordField α} {fields : List (RecordField α)} {entry : Option Data}
      {entries : List (String × Option Data)} {a b c : α} (head : field.Takes levels entry a b)
      (tail : Takes levels fields entries b c) :
      Takes levels (field :: fields) ((field.name, entry) :: entries) a c

theorem find?_name (distinct : (fields.map RecordField.name).Nodup) :
    ∀ field ∈ fields, fields.find? (·.name = field.name) = some field := by
  induction fields with
  | nil => exact fun _ impossible => nomatch impossible
  | cons first fields ih =>
    obtain ⟨new, distinct⟩ := List.nodup_cons.mp distinct
    rintro field (_ | ⟨_, member⟩)
    · exact List.find?_cons_of_pos (decide_eq_true rfl)
    · have other : first.name ≠ field.name :=
        fun same => new (same ▸ List.mem_map_of_mem member)
      rw [List.find?_cons_of_neg (by simpa using other), ih distinct field member]

theorem fill_known {name : String} {field : RecordField α}
    (known : all.find? (·.name = name) = some field) (names : List String) (path : Path)
    (value : Spot) (depth : Nat) :
    Spot.fill all ⟨names, a⟩ (⟨path, Data.scalar .doubleQuoted name, depth⟩, value) =
      if name ∈ names then throw (.unplaced (.duplicateField name))
      else do return ⟨name :: names, ← field.read value a⟩ := by
  rw [Spot.fill, Data.textAs_key, pure_bind, known]
  dsimp only
  split <;> rfl

/-- The entries that are there fill the record. By induction on the fields, of which those that are
still to come have names that were not read before. -/
theorem foldlM_fill (taken : Takes levels fields entries a b)
    (known : ∀ field ∈ fields, all.find? (·.name = field.name) = some field)
    (distinct : (fields.map RecordField.name).Nodup) {names : List String}
    (fresh : ∀ field ∈ fields, field.name ∉ names) (path : Path) {depth : Nat}
    (enough : levels ≤ depth) :
    (Data.spots path depth (Data.present entries)).foldlM (Spot.fill all) ⟨names, a⟩ =
      pure ⟨((Data.present entries).map Prod.fst).reverse ++ names, b⟩ := by
  induction taken generalizing names with
  | nil a => rfl
  | @cons field fields entry entries a b c head tail ih =>
    obtain ⟨new, distinct⟩ := List.nodup_cons.mp distinct
    have known' := fun other member => known other (List.mem_cons_of_mem field member)
    cases entry with
    | none =>
      obtain rfl : b = a := head
      exact ih known' distinct fun other member => fresh other (List.mem_cons_of_mem field member)
    | some d =>
      have fresh' : ∀ other ∈ fields, other.name ∉ field.name :: names := by
        intro other member
        rw [List.mem_cons, not_or]
        exact ⟨fun same => new (same ▸ List.mem_map_of_mem member),
          fresh other (List.mem_cons_of_mem field member)⟩
      have read : field.read ⟨path.entry field.name, d.node, depth⟩ a = pure b :=
        head _ depth enough
      rw [Data.present_some, Data.spots_cons, List.foldlM_cons,
        fill_known (known field List.mem_cons_self), if_neg (fresh field List.mem_cons_self), read,
        pure_bind, pure_bind, ih known' distinct fresh', List.map_cons, List.reverse_cons,
        List.append_assoc, List.singleton_append]

/-- A record is restored if each of its fields takes its entry. -/
theorem restores_record {expected : String} {required : List String}
    (distinct : (fields.map RecordField.name).Nodup) (taken : Takes levels fields entries a b)
    (complete : ∀ name ∈ required, name ∈ (Data.present entries).map Prod.fst) :
    Restores (Spot.record expected fields required a) (levels + 1) (Data.compact entries) b := by
  rintro path (_ | depth) enough
  · cases enough
  · have filled := foldlM_fill taken (find?_name distinct) distinct
      (fun _ _ => List.not_mem_nil) path (Nat.le_of_succ_le_succ enough)
    have missing : required.find? (· ∉ ((Data.present entries).map Prod.fst).reverse) = none := by
      rw [List.find?_eq_none]
      intro name member
      simpa using complete name member
    rw [List.append_nil] at filled
    rw [Spot.record, Data.follow_node, pure_bind, Data.entries_compact, pure_bind, filled,
      pure_bind]
    dsimp only
    rw [missing]
    rfl

theorem refuses_record {expected : String} {required : List String} {field : RecordField α}
    {d : Data} (name : String) (found : fields.find? (·.name = name) = some field)
    (entered : (name, some d) ∈ entries)
    (refused : ∀ a, Refuses (fun s => field.read s a) levels d) :
    Refuses (Spot.record expected fields required a) (levels + 1) (Data.compact entries) := by
  rintro path (_ | depth) enough
  · cases enough
  · have stuck (filled : Filled α) : Gives (fun _ => False)
        (Spot.fill fields filled
          (⟨path, Data.scalar .doubleQuoted name, depth⟩, ⟨path.entry name, d.node, depth⟩)) := by
      rw [fill_known found]
      split
      · exact gives_throw _
      · exact gives_none_bind (refused _ _ _ (Nat.le_of_succ_le_succ enough))
    have there := Data.mem_spots (Data.mem_present entered) path depth
    rw [Spot.record, Data.follow_node, pure_bind, Data.entries_compact, pure_bind]
    exact Spot.gives_placing _ (gives_none_bind (gives_none_foldlM there stuck _))

end ImageRecipe
