import ImageRecipe.Yaml.Token

namespace ImageRecipe.Yaml

inductive Node (Name : Type) where
  | reference (name : Name) (mark : Mark)
  | scalar (anchor : Option Name) (tag : Option String) (style : Style) (text : String)
      (mark : Mark)
  | sequence (anchor : Option Name) (tag : Option String) (items : List (Node Name)) (mark : Mark)
  | mapping (anchor : Option Name) (tag : Option String) (entries : List (Node Name × Node Name))
      (mark : Mark)

namespace Node

variable {Name : Type}

def mark : Node Name → Mark
  | reference _ mark => mark
  | scalar _ _ _ _ mark => mark
  | sequence _ _ _ mark => mark
  | mapping _ _ _ mark => mark

def empty (mark : Mark) : Node Name :=
  scalar none none .plain "" mark

mutual

/-- The size of a document: a scalar or alias counts one, a collection two beside its contents. -/
def size : Node Name → Nat
  | reference _ _ => 1
  | scalar _ _ _ _ _ => 1
  | sequence _ _ items _ => 2 + itemsSize items
  | mapping _ _ entries _ => 2 + entriesSize entries

def itemsSize : List (Node Name) → Nat
  | [] => 0
  | item :: items => item.size + itemsSize items

def entriesSize : List (Node Name × Node Name) → Nat
  | [] => 0
  | (key, value) :: entries => key.size + value.size + entriesSize entries

end

mutual

def anchored : Node Name → List (Name × Node Name)
  | reference _ _ => []
  | scalar anchor tag style text mark =>
    (anchor.map fun name => (name, scalar anchor tag style text mark)).toList
  | sequence anchor tag items mark =>
    (anchor.map fun name => (name, sequence anchor tag items mark)).toList ++ itemsAnchored items
  | mapping anchor tag entries mark =>
    (anchor.map fun name => (name, mapping anchor tag entries mark)).toList ++
      entriesAnchored entries

def itemsAnchored : List (Node Name) → List (Name × Node Name)
  | [] => []
  | item :: items => item.anchored ++ itemsAnchored items

def entriesAnchored : List (Node Name × Node Name) → List (Name × Node Name)
  | [] => []
  | (key, value) :: entries => key.anchored ++ value.anchored ++ entriesAnchored entries

end

end Node

end ImageRecipe.Yaml
