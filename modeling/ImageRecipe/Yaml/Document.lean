import ImageRecipe.Yaml.Grammar
import ImageRecipe.Yaml.Lexemes

/-!
Documents, in which it is settled which node an alias stands for.

An anchor gets the number of different names that were in use before it. When a name is used again,
the next new name gets the same number; the node that started last under a number is the one its
aliases stand for.
-/
namespace ImageRecipe.Yaml

/-- The numbers that names stand for at a point of the document; the last entry for a name
counts. -/
structure AnchorNames where
  numbers : List (String × Nat)

namespace AnchorNames

def names (a : AnchorNames) : List String :=
  a.numbers.map Prod.fst

def add (a : AnchorNames) (name : String) : Nat × AnchorNames :=
  let number := a.names.eraseDups.length
  (number, ⟨(name, number) :: a.numbers⟩)

def add? (a : AnchorNames) : Option String → Option Nat × AnchorNames
  | none => (none, a)
  | some name => let (number, a) := a.add name; (some number, a)

end AnchorNames

mutual

def Node.numbered (a : AnchorNames) : Node String → Option (Node Nat × AnchorNames)
  | .reference name mark => (a.numbers.lookup name).map fun number => (.reference number mark, a)
  | .scalar anchor tag style text mark =>
    let (number, a) := a.add? anchor
    some (.scalar number tag style text mark, a)
  | .sequence anchor tag items mark => do
    let (number, a) := a.add? anchor
    let (items, a) ← Node.numberedItems a items
    return (.sequence number tag items mark, a)
  | .mapping anchor tag entries mark => do
    let (number, a) := a.add? anchor
    let (entries, a) ← Node.numberedEntries a entries
    return (.mapping number tag entries mark, a)

def Node.numberedItems (a : AnchorNames) :
    List (Node String) → Option (List (Node Nat) × AnchorNames)
  | [] => some ([], a)
  | item :: items => do
    let (item, a) ← Node.numbered a item
    let (items, a) ← Node.numberedItems a items
    return (item :: items, a)

def Node.numberedEntries (a : AnchorNames) :
    List (Node String × Node String) → Option (List (Node Nat × Node Nat) × AnchorNames)
  | [] => some ([], a)
  | (key, value) :: entries => do
    let (key, a) ← Node.numbered a key
    let (value, a) ← Node.numbered a value
    let (entries, a) ← Node.numberedEntries a entries
    return ((key, value) :: entries, a)

end

structure Document where
  root : Node Nat
  anchors : List (Nat × Node Nat)

namespace Document

def ofNode (root : Node Nat) : Document := ⟨root, root.anchored.reverse⟩

def target? (d : Document) (number : Nat) : Option (Node Nat) :=
  d.anchors.lookup number

end Document

/-- The document that a text holds: nothing if the text is not one YAML stream with at most one
document. A stream without any document reads as an empty value at its end. -/
def document? (text : String) : Option Document := do
  let lexemes ← lexemes? text
  match ← Grammar.stream lexemes with
  | none => return .ofNode (.empty ((lexemes.getLast?.map Lexeme.start).getD .start))
  | some root =>
    let (root, _) ← root.numbered ⟨[]⟩
    return .ofNode root

end ImageRecipe.Yaml
