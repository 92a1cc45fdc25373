import ImageRecipe.Yaml.Reader

namespace ImageRecipe.Yaml

inductive Content where
  | null
  | natural (n : Nat)
  | text (s : String)
  /-- A truth value or any other number. -/
  | other
  | list (items : List Content)
  | map (entries : List (Content × Content))

namespace Spot

def scalarContent (s : Spot) : Reads Content :=
  match s.found with
  | .error problem => s.fail problem
  | .ok found =>
    match found with
    | .scalar .null => return .null
    | .scalar (.natural n) => return .natural n
    | .scalar (.text text) => return .text text
    | .scalar (.wideNatural _) => s.fail (.wrongType found "any value")
    | .scalar (.wideNegative _) => s.fail (.wrongType found "any value")
    | _ => return .other

def tag (s : Spot) : Option String :=
  match s.node with
  | .scalar _ tag _ _ _ => tag
  | .sequence _ tag _ _ => tag
  | .mapping _ tag _ _ => tag
  | .reference _ _ => none

/-- The content of a node within at most as many further collections as the first argument says. A
tag of the document's own has no meaning here. -/
def contentWithin : Nat → Spot → Reads Content
  | depth, s => do
    let s ← s.follow
    if Scalar.isOwnTag s.tag then s.fail .ownTag
    else
      match s.node with
      | .sequence _ _ items mark =>
        match depth with
        | 0 => throw (.tooDeep mark)
        | depth + 1 =>
          return .list (← (itemSpots s.path depth items).mapM (contentWithin depth))
      | .mapping _ _ entries mark =>
        match depth with
        | 0 => throw (.tooDeep mark)
        | depth + 1 =>
          return .map (← entries.mapM fun entry => do
            let (key, value) := entrySpots s.path depth entry
            return (← contentWithin depth key, ← contentWithin depth value))
      | _ => s.scalarContent

def content (s : Spot) : Reads Content := s.contentWithin s.depth

end Spot

end ImageRecipe.Yaml
