import ImageRecipe.Yaml.Node

/-!
From tokens to nodes. Every function takes the tokens that are left and gives a node, or the nodes
of a collection, with the tokens behind them. Nothing is said about why tokens make no node.
-/
namespace ImageRecipe.Yaml

abbrev TagHandles := List (String × String)

def standardHandles : TagHandles := [("!", "!"), ("!!", "tag:yaml.org,2002:")]

def TagName.resolve (handles : TagHandles) (name : TagName) : Option String :=
  if name.handle = "" then some name.suffix
  else (handles.lookup name.handle).map (· ++ name.suffix)

/-- Anchor and tag before a node, and the place where the first of them starts. -/
structure Properties where
  anchor : Option String
  tag : Option String
  mark : Option Mark

def properties (handles : TagHandles) : List Lexeme → Option (Properties × List Lexeme)
  | ⟨.anchor name, mark, _⟩ :: ⟨.tag tag, _, _⟩ :: rest => do
    return (⟨some name, some (← tag.resolve handles), some mark⟩, rest)
  | ⟨.tag tag, mark, _⟩ :: ⟨.anchor name, _, _⟩ :: rest => do
    return (⟨some name, some (← tag.resolve handles), some mark⟩, rest)
  | ⟨.anchor name, mark, _⟩ :: rest => some (⟨some name, none, some mark⟩, rest)
  | ⟨.tag tag, mark, _⟩ :: rest => do
    return (⟨none, some (← tag.resolve handles), some mark⟩, rest)
  | rest => some (⟨none, none, none⟩, rest)

/-- Where a node may stand: in a flow collection, as an entry of a block sequence or a document, or
as key or value of a block mapping. There a sequence needs no indentation of its own. -/
inductive Position where
  | flow
  | block
  | inMapping
deriving DecidableEq

namespace Grammar

def nextIs (tokens : List Token) : List Lexeme → Bool
  | [] => false
  | next :: _ => tokens.contains next.token

def nextMark : List Lexeme → Mark
  | [] => .start
  | next :: _ => next.start

abbrev TextNode := Node String

mutual

/-- A node. The rounds bound the nesting together with the lengths of the collections. -/
def node (handles : TagHandles) (position : Position) :
    Nat → List Lexeme → Option (TextNode × List Lexeme)
  | 0, _ => none
  | _ + 1, ⟨.reference name, mark, _⟩ :: rest => some (.reference name mark, rest)
  | rounds + 1, lexemes => do
    let (found, rest) ← properties handles lexemes
    let mark := found.mark.getD (nextMark rest)
    match rest with
    | ⟨.scalar text style, _, _⟩ :: rest =>
      return (.scalar found.anchor (found.tag.filter (· ≠ "!")) style text mark, rest)
    | ⟨.flowSequenceStart, _, _⟩ :: rest =>
      let (items, rest) ← flowItems handles true rounds rest
      return (.sequence found.anchor found.tag items mark, rest)
    | ⟨.flowMappingStart, _, _⟩ :: rest =>
      let (entries, rest) ← flowEntries handles true rounds rest
      return (.mapping found.anchor found.tag entries mark, rest)
    | _ =>
      if position = .inMapping && nextIs [.blockEntry] rest then
        let (items, rest) ← dashedItems handles [.blockEntry, .key, .value, .blockEnd] rounds rest
        return (.sequence found.anchor found.tag items mark, rest)
      else if position ≠ .flow && nextIs [.blockSequenceStart] rest then
        let (items, rest) ← dashedItems handles [.blockEntry, .blockEnd] rounds rest.tail
        if nextIs [.blockEnd] rest then
          return (.sequence found.anchor found.tag items mark, rest.tail)
        else none
      else if position ≠ .flow && nextIs [.blockMappingStart] rest then
        let (entries, rest) ← blockEntries handles rounds rest.tail
        return (.mapping found.anchor found.tag entries mark, rest)
      else if found.mark.isSome then
        return (.scalar found.anchor found.tag .plain "" mark, rest)
      else none

def dashedItems (handles : TagHandles) (ends : List Token) :
    Nat → List Lexeme → Option (List TextNode × List Lexeme)
  | 0, _ => none
  | rounds + 1, ⟨.blockEntry, _, stop⟩ :: rest => do
    let (item, rest) ←
      if nextIs ends rest then pure (.empty stop, rest) else node handles .block rounds rest
    let (items, rest) ← dashedItems handles ends rounds rest
    return (item :: items, rest)
  | _, rest => some ([], rest)

/-- The entries of a block mapping up to its end. -/
def blockEntries (handles : TagHandles) :
    Nat → List Lexeme → Option (List (TextNode × TextNode) × List Lexeme)
  | 0, _ => none
  | _ + 1, ⟨.blockEnd, _, _⟩ :: rest => some ([], rest)
  | rounds + 1, ⟨.key, _, stop⟩ :: rest => do
    let (key, rest) ← blockPart handles stop rounds rest
    let (value, rest) ←
      match rest with
      | ⟨.value, _, stop⟩ :: rest => blockPart handles stop rounds rest
      | _ => pure (.empty (nextMark rest), rest)
    let (entries, rest) ← blockEntries handles rounds rest
    return ((key, value) :: entries, rest)
  | _, _ => none

def blockPart (handles : TagHandles) (stop : Mark) :
    Nat → List Lexeme → Option (TextNode × List Lexeme)
  | 0, _ => none
  | rounds + 1, rest =>
    if nextIs [.key, .value, .blockEnd] rest then some (.empty stop, rest)
    else node handles .inMapping rounds rest

def flowItems (handles : TagHandles) (first : Bool) :
    Nat → List Lexeme → Option (List TextNode × List Lexeme)
  | 0, _ => none
  | _ + 1, ⟨.flowSequenceEnd, _, _⟩ :: rest => some ([], rest)
  | rounds + 1, lexemes => do
    let lexemes ←
      if first then pure lexemes
      else if nextIs [.flowEntry] lexemes then pure lexemes.tail
      else none
    match lexemes with
    | ⟨.flowSequenceEnd, _, _⟩ :: rest => return ([], rest)
    | ⟨.key, mark, _⟩ :: rest =>
      let (key, rest) ←
        match rest with
        | next :: behind =>
          if nextIs [.value, .flowEntry, .flowSequenceEnd] rest then
            pure (.empty next.stop, behind)
          else node handles .flow rounds rest
        | [] => none
      let (value, rest) ← flowValue handles .flowSequenceEnd rounds rest
      let (items, rest) ← flowItems handles false rounds rest
      return (.mapping none none [(key, value)] mark :: items, rest)
    | rest =>
      let (item, rest) ← node handles .flow rounds rest
      let (items, rest) ← flowItems handles false rounds rest
      return (item :: items, rest)

def flowEntries (handles : TagHandles) (first : Bool) :
    Nat → List Lexeme → Option (List (TextNode × TextNode) × List Lexeme)
  | 0, _ => none
  | _ + 1, ⟨.flowMappingEnd, _, _⟩ :: rest => some ([], rest)
  | rounds + 1, lexemes => do
    let lexemes ←
      if first then pure lexemes
      else if nextIs [.flowEntry] lexemes then pure lexemes.tail
      else none
    match lexemes with
    | ⟨.flowMappingEnd, _, _⟩ :: rest => return ([], rest)
    | ⟨.key, _, _⟩ :: rest =>
      let (key, rest) ←
        if nextIs [.value, .flowEntry, .flowMappingEnd] rest then
          pure (.empty (nextMark rest), rest)
        else node handles .flow rounds rest
      let (value, rest) ← flowValue handles .flowMappingEnd rounds rest
      let (entries, rest) ← flowEntries handles false rounds rest
      return ((key, value) :: entries, rest)
    | rest =>
      let (key, rest) ← node handles .flow rounds rest
      let value := .empty (nextMark rest)
      let (entries, rest) ← flowEntries handles false rounds rest
      return ((key, value) :: entries, rest)

def flowValue (handles : TagHandles) (close : Token) :
    Nat → List Lexeme → Option (TextNode × List Lexeme)
  | 0, _ => none
  | rounds + 1, ⟨.value, _, _⟩ :: rest =>
    if nextIs [.flowEntry, close] rest then some (.empty (nextMark rest), rest)
    else node handles .flow rounds rest
  | _, rest => some (.empty (nextMark rest), rest)

end

/-- The directives before a document. There is at most one version, 1.1 or 1.2, and one meaning for
a handle. -/
def directives (versionSeen : Bool) (handles : TagHandles) :
    List Lexeme → Option (Bool × TagHandles × List Lexeme)
  | ⟨.directive (.version major minor), _, _⟩ :: rest =>
    if !versionSeen && major = 1 && (minor = 1 || minor = 2) then directives true handles rest
    else none
  | ⟨.directive (.tag handle expansion), _, _⟩ :: rest =>
    if (handles.lookup handle).isSome then none
    else directives versionSeen (handles ++ [(handle, expansion)]) rest
  | rest => some (versionSeen, handles, rest)

def explicitDocument (rounds : Nat) (handles : TagHandles) (lexemes : List Lexeme) :
    Option (TextNode × List Lexeme) :=
  match lexemes with
  | ⟨.documentStart, _, _⟩ :: rest =>
    match rest with
    | ⟨.directive _, mark, _⟩ :: _ => some (.empty mark, rest)
    | ⟨.documentStart, mark, _⟩ :: _ => some (.empty mark, rest)
    | ⟨.documentEnd, mark, _⟩ :: _ => some (.empty mark, rest)
    | ⟨.streamEnd, mark, _⟩ :: _ => some (.empty mark, rest)
    | _ => node handles .block rounds rest
  | _ => none

def stream (lexemes : List Lexeme) : Option (Option TextNode) := do
  if nextIs [.streamEnd] lexemes then return none
  let rounds := 4 * lexemes.length + 4
  let (seen, handles, rest) ← directives false [] lexemes
  let (root, rest) ←
    if seen || !handles.isEmpty || nextIs [.documentStart] rest then
      explicitDocument rounds (handles ++ standardHandles) rest
    else node standardHandles .block rounds rest
  if nextIs [.streamEnd] (rest.dropWhile (·.token = .documentEnd)) then return some root
  else none

end Grammar

end ImageRecipe.Yaml
