import ImageRecipe.Yaml.Document

/-!
Plain data: the tree that a configuration is stored as. As a YAML document its texts are quoted, so
that none of them is taken for something else.
-/
namespace ImageRecipe

inductive Data where
  | null
  | bool (b : Bool)
  | number (n : UInt32)
  | text (s : String)
  | list (items : List Data)
  | map (entries : List (String × Data))

namespace Data

def compact (entries : List (String × Option Data)) : Data :=
  .map (entries.filterMap fun entry => entry.2.map fun value => (entry.1, value))

def texts (items : List String) : Data := .list (items.map text)

def scalar (style : Yaml.Style) (text : String) : Yaml.Node Nat :=
  .scalar none none style text .start

mutual

def node : Data → Yaml.Node Nat
  | null => scalar .plain "null"
  | bool b => scalar .plain (if b then "true" else "false")
  | number n => scalar .plain n.toNat.repr
  | text s => scalar .doubleQuoted s
  | list items => .sequence none none (nodes items) .start
  | map entries => .mapping none none (entryNodes entries) .start

def nodes : List Data → List (Yaml.Node Nat)
  | [] => []
  | item :: items => item.node :: nodes items

def entryNodes : List (String × Data) → List (Yaml.Node Nat × Yaml.Node Nat)
  | [] => []
  | (key, value) :: entries => (scalar .doubleQuoted key, value.node) :: entryNodes entries

end

def document (d : Data) : Yaml.Document := .ofNode d.node

end Data

end ImageRecipe
