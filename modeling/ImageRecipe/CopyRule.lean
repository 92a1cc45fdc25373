import ImageRecipe.Text.Trim

namespace ImageRecipe

/-- Where a copy lands, who owns it and whether it becomes a volume, as far as the rule itself
decides that. What is unset follows the recipe. -/
structure Placement where
  target : Option String := none
  user : Option String := none
  exported : Option Bool := none
deriving DecidableEq, Repr

structure CopyRule where
  source : String
  destination : String
  placement : Placement
deriving DecidableEq, Repr

/-- A destination is relative to the target directory, so leading slashes are dropped. -/
def CopyRule.make (source destination : String) (placement : Placement) : CopyRule :=
  ⟨source, Text.dropStart (· = '/') destination, placement⟩

end ImageRecipe
