import ImageRecipe.Fault
import ImageRecipe.Text.Quoted
import ImageRecipe.Yaml.Scalar

namespace ImageRecipe.Yaml

inductive Path where
  | root
  | item (parent : Path) (index : Nat)
  | entry (parent : Path) (key : String)
  /-- The value under a key that is not written as a scalar. -/
  | unnamed (parent : Path)
  /-- The value that an alias stands for. -/
  | reference (parent : Path)
deriving DecidableEq, Repr

def Path.stem : Path → String
  | root => ""
  | item parent index => parent.stem ++ "\\[" ++ index.repr ++ "\\]."
  | entry parent key => parent.stem ++ key ++ "."
  | unnamed parent => parent.stem ++ "?."
  | reference parent => parent.stem ++ "."

def Path.text : Path → String
  | root => ""
  | item parent index => parent.stem ++ "\\[" ++ index.repr ++ "\\]"
  | entry parent key => parent.stem ++ key
  | unnamed parent => parent.stem ++ "?"
  | reference parent => parent.stem

inductive Found where
  | scalar (meaning : Meaning)
  | sequence
  | mapping
deriving DecidableEq, Repr

def Found.text : Found → String
  | scalar .null => "unit value"
  | scalar (.bool b) => "boolean `" ++ (if b then "true" else "false") ++ "`"
  | scalar (.natural n) => "integer `" ++ n.repr ++ "`"
  | scalar (.negative n) => "integer `" ++ toString n ++ "`"
  | scalar (.wideNatural n) => "integer `" ++ n.repr ++ "` as u128"
  | scalar (.wideNegative n) => "integer `" ++ toString n ++ "` as i128"
  | scalar (.float x) => "floating point `" ++ x.text ++ "`"
  | scalar (.text s) => "string " ++ Text.quoted s
  | sequence => "sequence"
  | mapping => "map"

inductive Problem where
  | wrongType (found : Found) (expected : String)
  | wrongValue (found : Found) (expected : String)
  | missingField (name : String)
  | duplicateField (name : String)
  /-- An argument that is neither a text nor a mapping of its forms. -/
  | noArgument
  /-- A tag of the document's own where the tag would have to mean something. -/
  | ownTag
  | fault (fault : Fault)
deriving DecidableEq, Repr

def Problem.message : Problem → String
  | wrongType found expected => "invalid type: " ++ found.text ++ ", expected " ++ expected
  | wrongValue found expected => "invalid value: " ++ found.text ++ ", expected " ++ expected
  | missingField name => "missing field `" ++ name ++ "`"
  | duplicateField name => "duplicate field `" ++ name ++ "`"
  | noArgument => "data did not match any variant of untagged enum ArgumentConfig"
  | ownTag => "untagged and internally tagged enums do not support enum input"
  | fault f => f.message

/-- An error is placed at the value that was being read when it came up. -/
inductive ReadError where
  | unplaced (problem : Problem)
  | placed (problem : Problem) (path : Path) (mark : Mark)
  | tooDeep (mark : Mark)
  | tooManyAliases
deriving DecidableEq, Repr

namespace ReadError

def position (mark : Mark) : String :=
  " at line " ++ (mark.line + 1).repr ++ " column " ++ (mark.column + 1).repr

/-- The very start of a text is not mentioned as a position, nor the root as a path. -/
def message : ReadError → String
  | unplaced problem => problem.message
  | placed problem path mark =>
    (if path = .root then "" else path.text ++ ": ") ++ problem.message ++
      (if mark.line = 0 ∧ mark.column = 0 then "" else position mark)
  | tooDeep mark => "recursion limit exceeded" ++ position mark
  | tooManyAliases => "repetition limit exceeded"

def placeAt (path : Path) (mark : Mark) : ReadError → ReadError
  | unplaced problem => placed problem path mark
  | error => error

end ReadError

end ImageRecipe.Yaml
