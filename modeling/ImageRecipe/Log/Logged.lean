import ImageRecipe.Log.Record

namespace ImageRecipe.Log

structure Logged (ε α : Type) where
  records : List Record
  result : Except ε α

namespace Logged

variable {ε α β : Type}

/-- One computation after the other. After a failure nothing more happens. -/
def andThen (x : Logged ε α) (next : α → Logged ε β) : Logged ε β :=
  match x.result with
  | .ok a => ⟨x.records ++ (next a).records, (next a).result⟩
  | .error e => ⟨x.records, .error e⟩

instance : Monad (Logged ε) where
  pure a := ⟨[], .ok a⟩
  bind := andThen

def note (r : Record) : Logged ε Unit := ⟨[r], .ok ()⟩

def silent (result : Except ε α) : Logged ε α := ⟨[], result⟩

@[simp] theorem result_pure (a : α) : (pure a : Logged ε α).result = .ok a := rfl

theorem result_bind (x : Logged ε α) (next : α → Logged ε β) :
    (x >>= next).result = x.result.bind fun a => (next a).result := by
  show (x.andThen next).result = _
  unfold andThen
  cases x.result <;> rfl

end Logged

end ImageRecipe.Log
