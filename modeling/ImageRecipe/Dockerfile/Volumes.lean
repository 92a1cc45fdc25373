import ImageRecipe.Dockerfile.Instruction
import ImageRecipe.Dockerfile.TokenArray
import ImageRecipe.Dockerfile.Copying

/-!
The volumes of an image: the targets of copy rules, the base directory and the paths listed
explicitly. Where an export flag is unset, a recipe without a base image exports, since it stands
for an image that only carries data.
-/
namespace ImageRecipe.Recipe

def exportsByDefault (r : Recipe) : Bool := !r.hasBaseImage

def exportsTarget (r : Recipe) (rule : CopyRule) : Bool :=
  rule.placement.exported.getD r.exportsByDefault

def exportsBaseDir (r : Recipe) : Bool :=
  r.exportBaseDir.getD r.exportsByDefault

def volumePaths (r : Recipe) : List String :=
  (r.copies.filter r.exportsTarget).map r.targetDir ++
    (if r.exportsBaseDir then [r.baseDir] else []) ++ r.volumes

/-- Slashes at the end do not belong to a volume, and the root is never one. -/
def volume? (path : String) : Option String :=
  let path := Text.dropEnd (· = '/') path
  if path = "" then none else some path

def volumeInstructions (r : Recipe) : List Instruction :=
  (r.volumePaths.filterMap volume?).map fun path => ⟨.volume, [tokenArray [path]]⟩

end ImageRecipe.Recipe
