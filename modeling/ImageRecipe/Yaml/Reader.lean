import ImageRecipe.OrderedMap
import ImageRecipe.Yaml.Document
import ImageRecipe.Yaml.Error

namespace ImageRecipe.Yaml

abbrev Reads (α : Type) := ReaderT Document (StateT Nat (Except ReadError)) α

/-- A node with the way to it and the number of collections that may still be entered. -/
structure Spot where
  path : Path
  node : Node Nat
  depth : Nat

def nestingLimit : Nat := 128

def aliasLimit : Nat := 100

namespace Spot

def atRoot (d : Document) : Spot := ⟨.root, d.root, nestingLimit⟩

def follow (s : Spot) : Reads Spot := do
  match s.node with
  | .reference number _ =>
    let document ← read
    let followed ← get
    set (followed + 1)
    if aliasLimit * document.root.size < followed + 1 then throw .tooManyAliases
    match document.target? number with
    | some target => return { s with path := .reference s.path, node := target }
    | none => throw .tooManyAliases
  | _ => return s

def found (s : Spot) : Except Problem Found :=
  match s.node with
  | .scalar _ tag style text _ =>
    match Scalar.meaning tag style text with
    | .ok meaning => .ok (.scalar meaning)
    | .error demanded => .error (.wrongValue (.scalar (.text text)) demanded)
  | .sequence .. => .ok .sequence
  | .mapping .. => .ok .mapping
  | .reference .. => .ok (.scalar .null)

def fail {α : Type} (s : Spot) (problem : Problem) : Reads α :=
  throw (.placed problem s.path s.node.mark)

def refuse {α : Type} (s : Spot) (expected : String) : Reads α :=
  match s.found with
  | .ok found => s.fail (.wrongType found expected)
  | .error problem => s.fail problem

def placing {α : Type} (s : Spot) (reads : Reads α) : Reads α := fun document followed =>
  match reads document followed with
  | .ok result => .ok result
  | .error error => .error (error.placeAt s.path s.node.mark)

def textAs (expected : String) (s : Spot) : Reads String := do
  let s ← s.follow
  match s.node with
  | .scalar _ _ _ text _ => return text
  | _ => s.refuse expected

def text (s : Spot) : Reads String := s.textAs "a string"

def isAbsent (tag : Option String) (style : Style) (text : String) : Except Problem Bool :=
  if style ≠ .plain then .ok false
  else if tag = some Scalar.nullTag then
    if Scalar.isNullWord text then .ok true
    else .error (.wrongValue (.scalar (.text text)) "null")
  else if tag.isSome then .ok false
  else .ok (text = "" || Scalar.isNullWord text)

def optional {α : Type} (reads : Spot → Reads α) (s : Spot) : Reads (Option α) := do
  let s ← s.follow
  match s.node with
  | .scalar _ tag style text _ =>
    match isAbsent tag style text with
    | .ok true => return none
    | .ok false => return some (← reads s)
    | .error problem => throw (.unplaced problem)
  | _ => return some (← reads s)

/-- Whether the text of a scalar may be read as what the tag says: it is plain, or it is literal
and has that tag. -/
def isReadable (wanted : String) (tag : Option String) (style : Style) : Bool :=
  style = .plain || (style = .literal && tag = some wanted)

def flag (s : Spot) : Reads Bool := do
  let s ← s.follow
  match s.node with
  | .scalar _ tag style text _ =>
    if isReadable Scalar.boolTag tag style then
      match Scalar.bool? text with
      | some b => return b
      | none => s.refuse "a boolean"
    else s.refuse "a boolean"
  | _ => s.refuse "a boolean"

def count (s : Spot) : Reads UInt32 := do
  let s ← s.follow
  match s.node with
  | .scalar _ tag style text _ =>
    if isReadable Scalar.intTag tag style then
      match Scalar.natural? 64 text.toList with
      | some n =>
        if n < UInt32.size then return UInt32.ofNat n
        else s.fail (.wrongValue (.scalar (.natural n)) "u32")
      | none => s.refuse "u32"
    else s.refuse "u32"
  | _ => s.refuse "u32"

def isEmptyPlain : Node Nat → Bool
  | .scalar _ _ style text _ => style = .plain && text = ""
  | _ => false

def deeper (s : Spot) : Reads Nat :=
  match s.depth with
  | 0 => throw (.tooDeep s.node.mark)
  | depth + 1 => return depth

def itemSpots (path : Path) (depth : Nat) (items : List (Node Nat)) : List Spot :=
  items.mapIdx fun index node => ⟨path.item index, node, depth⟩

/-- The spots of key and value of an entry. A key has the path of its mapping. -/
def entrySpots (path : Path) (depth : Nat) (entry : Node Nat × Node Nat) : Spot × Spot :=
  let valuePath :=
    match entry.1 with
    | .scalar _ _ _ text _ => path.entry text
    | _ => path.unnamed
  (⟨path, entry.1, depth⟩, ⟨valuePath, entry.2, depth⟩)

def list {α : Type} (reads : Spot → Reads α) (s : Spot) : Reads (List α) := do
  let s ← s.follow
  s.placing do
    match s.node with
    | .sequence _ _ items _ => (itemSpots s.path (← s.deeper) items).mapM reads
    | node => if isEmptyPlain node then return [] else s.refuse "a sequence"

def entries (expected : String) (s : Spot) : Reads (List (Spot × Spot)) := do
  match s.node with
  | .mapping _ _ entries _ =>
    let depth ← s.deeper
    return entries.map (entrySpots s.path depth)
  | node => if isEmptyPlain node then return [] else s.refuse expected

def map {α : Type} (reads : Spot → Reads α) (s : Spot) : Reads (OrderedMap α) := do
  let s ← s.follow
  s.placing do
    (← s.entries "a map").foldlM
      (fun m (key, value) => do
        let key ← key.text
        return m.put key (← reads value))
      OrderedMap.empty

end Spot

structure RecordField (α : Type) where
  name : String
  read : Spot → α → Reads α

def RecordField.of {α β : Type} (name : String) (reads : Spot → Reads β) (put : β → α → α) :
    RecordField α :=
  ⟨name, fun s record => return put (← reads s) record⟩

structure Filled (α : Type) where
  names : List String
  record : α

namespace Spot

/-- One entry of a record. Unknown fields are skipped; none may come twice. -/
def fill {α : Type} (fields : List (RecordField α)) (filled : Filled α) (entry : Spot × Spot) :
    Reads (Filled α) := do
  let name ← entry.1.textAs "field identifier"
  match fields.find? (·.name = name) with
  | none => return filled
  | some field =>
    if name ∈ filled.names then throw (.unplaced (.duplicateField name))
    return ⟨name :: filled.names, ← field.read entry.2 filled.record⟩

def record {α : Type} (expected : String) (fields : List (RecordField α)) (required : List String)
    (start : α) (s : Spot) : Reads α := do
  let s ← s.follow
  s.placing do
    let filled ← (← s.entries expected).foldlM (fill fields) ⟨[], start⟩
    match required.find? (· ∉ filled.names) with
    | some name => throw (.unplaced (.missingField name))
    | none => return filled.record

end Spot

def Document.value {α : Type} (d : Document) (reads : Spot → Reads α) : Except ReadError α :=
  ((reads (.atRoot d)).run d |>.run 0).map Prod.fst

end ImageRecipe.Yaml
