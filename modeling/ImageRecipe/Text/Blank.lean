import ImageRecipe.Text.Trim

/-!
Blank characters: those with the Unicode property `White_Space`. The zero width space, the byte
order mark and the information separators are not among them.
-/
namespace ImageRecipe.Text

def blankRanges : List (Nat × Nat) :=
  [(0x9, 0xD), (0x20, 0x20), (0x85, 0x85), (0xA0, 0xA0), (0x1680, 0x1680), (0x2000, 0x200A),
   (0x2028, 0x2029), (0x202F, 0x202F), (0x205F, 0x205F), (0x3000, 0x3000)]

def isBlank (c : Char) : Bool :=
  blankRanges.any fun range => range.1 ≤ c.toNat && c.toNat ≤ range.2

def trim (s : String) : String :=
  dropEnd isBlank (dropStart isBlank s)

def words (s : String) : List String :=
  ((s.toList.splitOnP isBlank).filter (!·.isEmpty)).map String.ofList

def isBlankText (s : String) : Bool :=
  s.toList.all isBlank

end ImageRecipe.Text
