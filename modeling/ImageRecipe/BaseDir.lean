import ImageRecipe.Fault
import ImageRecipe.Text.Trim

/-!
Base directories: absolute paths, and paths that begin with a reference to an environment
variable, `$NAME` or the name in braces. What follows that beginning is free.
-/
namespace ImageRecipe.BaseDir

def isNameChar (c : Char) : Bool :=
  c.isAlphanum || c = '_'

def startsWithVariable : List Char → Bool
  | '$' :: '\x7b' :: cs =>
    !(cs.takeWhile isNameChar).isEmpty && (cs.dropWhile isNameChar).head? == some '\x7d'
  | '$' :: c :: _ => isNameChar c
  | _ => false

def isValid (dir : String) : Bool :=
  dir.toList.head? == some '/' || startsWithVariable dir.toList

def check (dir : String) : Except Fault Unit :=
  if isValid dir then .ok () else .error (.malformedBaseDir dir)

end ImageRecipe.BaseDir
