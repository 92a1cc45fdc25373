import ImageRecipe.Yaml.Reader
import ImageRecipe.Proofs.Outcome

namespace ImageRecipe.Yaml

/-- Every value that is read has the property. -/
def Gives {α : Type} (P : α → Prop) (reads : Reads α) : Prop :=
  ∀ document followed a later, reads document followed = .ok (a, later) → P a

section

variable {α β : Type} {P : α → Prop} {Q : β → Prop}

theorem gives_any (reads : Reads α) : Gives (fun _ => True) reads :=
  fun _ _ _ _ _ => trivial

theorem gives_pure {a : α} (holds : P a) : Gives P (pure a) := by
  intro document followed b later given
  have same := Except.ok.inj given
  cases same
  exact holds

theorem gives_throw (error : ReadError) : Gives P (throw error) := by
  intro document followed a later given
  cases given

theorem gives_bind {x : Reads α} {f : α → Reads β} (first : Gives P x)
    (rest : ∀ a, P a → Gives Q (f a)) : Gives Q (x >>= f) := by
  intro document followed b later given
  have parts : (x document followed >>= fun r => f r.1 document r.2) = .ok (b, later) := given
  obtain ⟨⟨a, between⟩, head, tail⟩ := bind_eq_ok_iff.mp parts
  exact rest a (first document followed a between head) document between b later tail

theorem gives_foldlM {f : α → β → Reads α} (step : ∀ a b, P a → Gives P (f a b)) (items : List β)
    {start : α} (holds : P start) : Gives P (items.foldlM f start) := by
  induction items generalizing start with
  | nil => exact gives_pure holds
  | cons item items ih =>
    rw [List.foldlM_cons]
    exact gives_bind (step start item holds) fun next kept => ih kept

theorem gives_none_bind {x : Reads α} {f : α → Reads β} (never : Gives (fun _ => False) x) :
    Gives (fun _ => False) (x >>= f) :=
  gives_bind never fun _ impossible => impossible.elim

theorem gives_none_foldlM {f : α → β → Reads α} {item : β} {items : List β} (member : item ∈ items)
    (never : ∀ a, Gives (fun _ => False) (f a item)) (start : α) :
    Gives (fun _ => False) (items.foldlM f start) := by
  induction items generalizing start with
  | nil => cases member
  | cons first items ih =>
    rw [List.foldlM_cons]
    rcases List.mem_cons.mp member with rfl | later
    · exact gives_none_bind (never start)
    · exact gives_bind (gives_any _) fun next _ => ih later next

end

namespace Spot

variable {α β : Type} {P : α → Prop} {Q : β → Prop}

theorem gives_placing (s : Spot) {reads : Reads α} (given : Gives P reads) :
    Gives P (s.placing reads) := by
  intro document followed a later placed
  unfold placing at placed
  split at placed
  · rename_i result read
    rw [Except.ok.inj placed] at read
    exact given document followed a later read
  · cases placed

theorem gives_optional {reads : Spot → Reads α} (given : ∀ s, Gives P (reads s)) (s : Spot) :
    Gives (fun value => ∀ a ∈ value, P a) (s.optional reads) := by
  have present (s : Spot) : Gives (fun value => ∀ a ∈ value, P a) (return some (← reads s)) := by
    refine gives_bind (given s) fun a holds => gives_pure ?_
    intro b same
    rwa [← Option.some.inj same]
  refine gives_bind (gives_any s.follow) fun s _ => ?_
  split
  · split
    · refine gives_pure ?_
      intro a impossible
      cases impossible
    · exact present s
    · exact gives_throw _
  · exact present s

end Spot

def RecordField.Keeps {α : Type} (P : α → Prop) (field : RecordField α) : Prop :=
  ∀ s record, P record → Gives P (field.read s record)

theorem RecordField.keeps_of {α β : Type} {P : α → Prop} {Q : β → Prop} {name : String}
    {reads : Spot → Reads β} {put : β → α → α} (given : ∀ s, Gives Q (reads s))
    (kept : ∀ b record, Q b → P record → P (put b record)) : (of name reads put).Keeps P := by
  intro s record holds
  exact gives_bind (given s) fun b value => gives_pure (kept b record value holds)

namespace Spot

variable {α : Type} {P : α → Prop} {fields : List (RecordField α)}

theorem gives_fill (kept : ∀ field ∈ fields, field.Keeps P) (filled : Filled α)
    (entry : Spot × Spot) (holds : P filled.record) :
    Gives (fun next => P next.record) (fill fields filled entry) := by
  refine gives_bind (gives_any _) fun name _ => ?_
  split
  · exact gives_pure holds
  · rename_i field found
    have read := kept field (List.mem_of_find?_eq_some found) entry.2 filled.record holds
    have added : Gives (fun next : Filled α => P next.record)
        (return ⟨name :: filled.names, ← field.read entry.2 filled.record⟩) :=
      gives_bind read fun _ next => gives_pure next
    split
    · exact gives_bind (gives_any _) fun _ _ => added
    · exact added

theorem gives_record {expected : String} {required : List String} {start : α}
    (kept : ∀ field ∈ fields, field.Keeps P) (holds : P start) (s : Spot) :
    Gives P (s.record expected fields required start) := by
  refine gives_bind (gives_any s.follow) fun s _ => gives_placing s ?_
  refine gives_bind (gives_any _) fun entries _ => ?_
  refine gives_bind (gives_foldlM (gives_fill kept) entries holds) fun filled record => ?_
  split
  · exact gives_throw _
  · exact gives_pure record

end Spot

end ImageRecipe.Yaml
