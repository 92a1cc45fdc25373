/-!
The text of a YAML stream as a list of characters that know where they stand. Line breaks are made
uniform on the way: carriage return, line feed, both together and the next line character are one
line feed, the line and paragraph separators stay as they are.
-/
namespace ImageRecipe.Yaml

structure Mark where
  index : Nat
  line : Nat
  column : Nat
deriving DecidableEq, Repr

def Mark.start : Mark := ⟨0, 0, 0⟩

def Mark.next (m : Mark) : Mark := ⟨m.index + 1, m.line, m.column + 1⟩

def Mark.nextLine (m : Mark) (width : Nat) : Mark := ⟨m.index + width, m.line + 1, 0⟩

structure Located where
  char : Char
  mark : Mark
deriving DecidableEq, Repr

abbrev Source := List Located

def isAllowed (c : Char) : Bool :=
  let n := c.toNat
  n = 0x9 || n = 0xA || n = 0xD || (0x20 ≤ n && n ≤ 0x7E) || n = 0x85 ||
    (0xA0 ≤ n && n ≤ 0xD7FF) || (0xE000 ≤ n && n ≤ 0xFFFD) || 0x10000 ≤ n

def isBreak (c : Char) : Bool :=
  c = '\n' || c = '\u2028' || c = '\u2029'

def isGap (c : Char) : Bool :=
  c = ' ' || c = '\t'

def isNameChar (c : Char) : Bool :=
  c.isAlphanum || c = '_' || c = '-'

def byteOrderMark : Char := '\ufeff'

/-- The characters from a place on, and the place after the last one. -/
def locate : Mark → List Char → Source × Mark
  | mark, [] => ([], mark)
  | mark, '\r' :: '\n' :: cs =>
    let (source, final) := locate (mark.nextLine 2) cs
    (⟨'\n', mark⟩ :: source, final)
  | mark, c :: cs =>
    if c = '\r' || c = '\n' || c = '\u0085' then
      let (source, final) := locate (mark.nextLine 1) cs
      (⟨'\n', mark⟩ :: source, final)
    else
      let (source, final) := locate (if isBreak c then mark.nextLine 1 else mark.next) cs
      (⟨c, mark⟩ :: source, final)

namespace Source

def char? (source : Source) : Option Char :=
  source.head?.map Located.char

def startsWith (source : Source) (c : Char) : Bool :=
  source.char? == some c

def atSpace : Source → Bool
  | [] => true
  | here :: _ => isGap here.char || isBreak here.char

def atBreak : Source → Bool
  | [] => false
  | here :: _ => isBreak here.char

/-- Whether a line starts here that holds three dashes or three dots as a word of their own. -/
def atDocumentMarker : Source → Bool
  | a :: b :: c :: rest =>
    a.mark.column = 0 && (a.char = '-' || a.char = '.') && b.char = a.char && c.char = a.char &&
      Source.atSpace rest
  | _ => false

def spanChars (p : Char → Bool) (source : Source) : List Char × Source :=
  ((source.takeWhile (p ·.char)).map Located.char, source.dropWhile (p ·.char))

def skipGaps (source : Source) : Source :=
  source.dropWhile (isGap ·.char)

def skipLine (source : Source) : Source :=
  source.dropWhile (!isBreak ·.char)

end Source

end ImageRecipe.Yaml
