import Mathlib.Data.List.Forall2

namespace ImageRecipe

variable {ε ε' α β : Type}

theorem map_eq_ok_iff {x : Except ε α} {f : α → β} {b : β} :
    x.map f = .ok b ↔ ∃ a, x = .ok a ∧ f a = b := by
  cases x <;> simp [Except.map]

theorem bind_eq_ok_iff {x : Except ε α} {f : α → Except ε β} {b : β} :
    x >>= f = .ok b ↔ ∃ a, x = .ok a ∧ f a = .ok b := by
  cases x <;> simp [bind, Except.bind]

theorem mapError_eq_ok_iff {x : Except ε α} {f : ε → ε'} {a : α} :
    x.mapError f = .ok a ↔ x = .ok a := by
  cases x <;> simp [Except.mapError]

theorem toOption_eq_some_iff {x : Except ε α} {a : α} : x.toOption = some a ↔ x = .ok a := by
  cases x <;> simp [Except.toOption]

theorem exists_error_iff {x : Except ε α} : (∃ e, x = .error e) ↔ ¬ ∃ a, x = .ok a := by
  cases x <;> simp

theorem bind_eq_error_iff {x : Except ε α} {f : α → Except ε β} {e : ε} :
    x >>= f = .error e ↔ x = .error e ∨ ∃ a, x = .ok a ∧ f a = .error e := by
  cases x <;> simp [bind, Except.bind]

theorem forM_eq_ok_iff {f : α → Except ε Unit} {xs : List α} :
    xs.forM f = .ok () ↔ ∀ x ∈ xs, f x = .ok () := by
  induction xs with
  | nil => exact ⟨fun _ _ member => absurd member List.not_mem_nil, fun _ => rfl⟩
  | cons x xs ih =>
    have split : (x :: xs).forM f = f x >>= fun _ => xs.forM f := rfl
    rw [split, bind_eq_ok_iff, List.forall_mem_cons, ← ih]
    constructor
    · rintro ⟨_, head, tail⟩
      exact ⟨head, tail⟩
    · rintro ⟨head, tail⟩
      exact ⟨_, head, tail⟩

theorem exists_of_forM_eq_error {f : α → Except ε Unit} {xs : List α} {e : ε}
    (failed : xs.forM f = .error e) : ∃ x ∈ xs, f x = .error e := by
  induction xs with
  | nil => cases failed
  | cons x xs ih =>
    have split : (x :: xs).forM f = f x >>= fun _ => xs.forM f := rfl
    rw [split, bind_eq_error_iff] at failed
    rcases failed with head | ⟨_, _, tail⟩
    · exact ⟨x, List.mem_cons_self, head⟩
    · obtain ⟨y, member, fails⟩ := ih tail
      exact ⟨y, .tail x member, fails⟩

theorem mapM_eq_ok_iff {f : α → Except ε β} {xs : List α} {ys : List β} :
    xs.mapM f = .ok ys ↔ List.Forall₂ (fun x y => f x = .ok y) xs ys := by
  induction xs generalizing ys with
  | nil =>
    rw [List.mapM_nil, List.forall₂_nil_left_iff]
    exact ⟨fun same => (Except.ok.inj same).symm, fun same => by rw [same]; rfl⟩
  | cons x xs ih =>
    rw [List.mapM_cons, List.forall₂_cons_left_iff, bind_eq_ok_iff]
    constructor
    · rintro ⟨y, head, rest⟩
      obtain ⟨others, tail, same⟩ := bind_eq_ok_iff.mp rest
      exact ⟨y, others, head, ih.mp tail, (Except.ok.inj same).symm⟩
    · rintro ⟨y, others, head, tail, rfl⟩
      exact ⟨y, head, bind_eq_ok_iff.mpr ⟨others, ih.mpr tail, rfl⟩⟩

theorem mapM_eq_error_iff {f : α → Except ε β} {xs : List α} {e : ε} :
    xs.mapM f = .error e ↔
      ∃ before x after, xs = before ++ x :: after ∧ (∀ y ∈ before, ∃ z, f y = .ok z) ∧
        f x = .error e := by
  induction xs with
  | nil => simp [pure, Except.pure]
  | cons x xs ih =>
    rw [List.mapM_cons, bind_eq_error_iff]
    constructor
    · rintro (head | ⟨z, head, rest⟩)
      · exact ⟨[], x, xs, rfl, by simp, head⟩
      · have tail : xs.mapM f = .error e := by
          rcases bind_eq_error_iff.mp rest with tail | ⟨_, _, impossible⟩
          · exact tail
          · cases impossible
        obtain ⟨before, y, after, rfl, passed, fails⟩ := ih.mp tail
        refine ⟨x :: before, y, after, rfl, ?_, fails⟩
        rintro w (_ | ⟨_, there⟩)
        · exact ⟨z, head⟩
        · exact passed w there
    · rintro ⟨before, y, after, split, passed, fails⟩
      cases before with
      | nil =>
        obtain ⟨rfl, _⟩ := List.cons.inj split
        exact .inl fails
      | cons w before =>
        obtain ⟨rfl, rfl⟩ := List.cons.inj split
        obtain ⟨z, head⟩ := passed x List.mem_cons_self
        have tail := ih.mpr
          ⟨before, y, after, rfl, fun v there => passed v (.tail x there), fails⟩
        exact .inr ⟨z, head, bind_eq_error_iff.mpr (.inl tail)⟩

theorem foldlM_eq_ok_congr {f g : β → α → Except ε β}
    (same : ∀ b x next, f b x = .ok next ↔ g b x = .ok next) {xs : List α} {b result : β} :
    xs.foldlM f b = .ok result ↔ xs.foldlM g b = .ok result := by
  induction xs generalizing b with
  | nil => rfl
  | cons x xs ih => simp only [List.foldlM_cons, bind_eq_ok_iff, same, ih]

theorem forall₂_exists {R : α → β → Prop} {xs : List α} {ys : List β}
    (related : List.Forall₂ R xs ys) : ∀ y ∈ ys, ∃ x ∈ xs, R x y := by
  induction related with
  | nil => intro y member; cases member
  | cons head _ ih =>
    intro y member
    rcases List.mem_cons.mp member with rfl | later
    · exact ⟨_, List.mem_cons_self, head⟩
    · obtain ⟨x, there, holds⟩ := ih y later
      exact ⟨x, .tail _ there, holds⟩

end ImageRecipe
