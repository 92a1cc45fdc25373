import ImageRecipe.Yaml.Block
import ImageRecipe.Yaml.Plain
import ImageRecipe.Yaml.Token

/-!
From text to tokens. The difficulty is that a key shows only by the colon behind it. So wherever a
token could begin a key its place is remembered as a candidate, one for each level of flow
collections, and when the colon comes the key token is inserted there. A candidate lapses at the
end of its line or after 1024 characters.

Nothing here says what is wrong with a text that has no tokens.
-/
namespace ImageRecipe.Yaml

/-- A token that may turn out to begin a key. One that must is in the column of the surrounding
block mapping. -/
structure KeyCandidate where
  required : Bool
  position : Nat
  mark : Mark
deriving DecidableEq, Repr

def keyReach : Nat := 1024

def KeyCandidate.lapsed (k : KeyCandidate) (here : Mark) : Bool :=
  k.mark.line < here.line || k.mark.index + keyReach < here.index

/-- The state of reading: what is left, the tokens so far, the columns of the open block
collections and the candidates of the open levels of flow collections, innermost first. -/
structure Reading where
  source : Source
  final : Mark
  lexemes : Array Lexeme
  blocks : List Nat
  candidates : List (Option KeyCandidate)
  keyAllowed : Bool

namespace Reading

def ofText (text : String) : Reading :=
  let (source, final) := locate .start text.toList
  ⟨source, final, #[], [], [none], true⟩

def here (r : Reading) : Mark :=
  (r.source.head?.map Located.mark).getD r.final

def inFlow (r : Reading) : Bool := 1 < r.candidates.length

def indent (r : Reading) : Option Nat := r.blocks.head?

def push (r : Reading) (token : Token) (start stop : Mark) : Reading :=
  { r with lexemes := r.lexemes.push ⟨token, start, stop⟩ }

def allowKeys (r : Reading) (allowed : Bool) : Reading := { r with keyAllowed := allowed }

def indicator (r : Reading) (token : Token) (width : Nat) : Reading :=
  let next := { r with source := r.source.drop width }
  next.push token r.here next.here

/-- The text after spaces, comments and line breaks. Behind a line break outside of flow
collections a key may begin again, and tabs do not count as space there. -/
def skipSpace : Nat → Reading → Reading
  | 0, r => r
  | rounds + 1, r =>
    let source :=
      match r.source with
      | first :: rest =>
        if first.mark.column = 0 && first.char = byteOrderMark then rest else r.source
      | [] => []
    let tabs := r.inFlow || !r.keyAllowed
    let source := source.dropWhile fun l => l.char = ' ' || (tabs && l.char = '\t')
    let source := if Source.startsWith source '#' then Source.skipLine source else source
    if Source.atBreak source then
      skipSpace rounds { r with source := source.tail, keyAllowed := r.keyAllowed || !r.inFlow }
    else { r with source := source }

def dropLapsed (r : Reading) : Option Reading := do
  let candidates ← r.candidates.mapM fun candidate =>
    match candidate with
    | some k => if k.lapsed r.here then if k.required then none else some none else some (some k)
    | none => some none
  return { r with candidates := candidates }

def dropCandidate (r : Reading) : Option Reading :=
  match r.candidates with
  | some k :: outer => if k.required then none else some { r with candidates := none :: outer }
  | _ => some r

/-- Remembers that the next token may begin a key. -/
def addCandidate (r : Reading) : Option Reading :=
  if r.keyAllowed then do
    let required := !r.inFlow && r.indent == some r.here.column
    let r ← r.dropCandidate
    return { r with candidates := some ⟨required, r.lexemes.size, r.here⟩ :: r.candidates.tail }
  else some r

/-- Ends the block collections to the right of a column, or all of them. -/
def closeBlocks (r : Reading) (column : Option Nat) : Reading :=
  if r.inFlow then r
  else
    let closed := r.blocks.takeWhile fun block => column.all (· < block)
    let ends := closed.map fun _ => (⟨.blockEnd, r.here, r.here⟩ : Lexeme)
    { r with lexemes := r.lexemes ++ ends.toArray, blocks := r.blocks.drop closed.length }

def openBlock (r : Reading) (token : Token) (position : Nat) (mark : Mark) : Reading :=
  if r.inFlow || r.indent.any (mark.column ≤ ·) then r
  else
    { r with
      lexemes := r.lexemes.insertIdxIfInBounds position ⟨token, mark, mark⟩
      blocks := mark.column :: r.blocks }

def endDocument (r : Reading) : Option Reading := do
  let r ← (r.closeBlocks none).dropCandidate
  return r.allowKeys false

def readDirective (r : Reading) : Option Reading := do
  let r ← r.endDocument
  let (directive, rest) ← Source.directive r.source.tail
  let next := { r with source := rest }
  return next.push (.directive directive) r.here next.here

def readDocumentMarker (r : Reading) (token : Token) : Option Reading := do
  return (← r.endDocument).indicator token 3

def readFlowStart (r : Reading) (token : Token) : Option Reading := do
  let r ← r.addCandidate
  return { r with candidates := none :: r.candidates }.allowKeys true |>.indicator token 1

def readFlowEnd (r : Reading) (token : Token) : Option Reading := do
  let r ← r.dropCandidate
  let r := if r.inFlow then { r with candidates := r.candidates.tail } else r
  return (r.allowKeys false).indicator token 1

def readFlowEntry (r : Reading) : Option Reading := do
  return ((← r.dropCandidate).allowKeys true).indicator .flowEntry 1

def readBlockEntry (r : Reading) : Option Reading := do
  if !r.inFlow && !r.keyAllowed then none
  else
    let r ← (r.openBlock .blockSequenceStart r.lexemes.size r.here).dropCandidate
    return (r.allowKeys true).indicator .blockEntry 1

def readKey (r : Reading) : Option Reading := do
  if !r.inFlow && !r.keyAllowed then none
  else
    let r ← (r.openBlock .blockMappingStart r.lexemes.size r.here).dropCandidate
    return (r.allowKeys (!r.inFlow)).indicator .key 1

/-- The colon before a value. If there is a candidate, it was a key. -/
def readValue (r : Reading) : Option Reading :=
  match r.candidates with
  | some k :: outer =>
    let lexemes := r.lexemes.insertIdxIfInBounds k.position ⟨.key, k.mark, k.mark⟩
    let r := { r with lexemes := lexemes, candidates := none :: outer }
    let r := r.openBlock .blockMappingStart k.position k.mark
    some ((r.allowKeys false).indicator .value 1)
  | _ =>
    if !r.inFlow && !r.keyAllowed then none
    else
      let r := r.openBlock .blockMappingStart r.lexemes.size r.here
      some ((r.allowKeys (!r.inFlow)).indicator .value 1)

def readAtom (r : Reading) (read : Source → Option (Token × Source)) : Option Reading := do
  let r ← r.addCandidate
  let (token, rest) ← read r.source
  let next := { r with source := rest, keyAllowed := false }
  return next.push token r.here next.here

def readAlias (r : Reading) : Option Reading :=
  r.readAtom fun source =>
    (Source.anchorName source.tail).map fun (name, rest) => (.reference name, rest)

def readAnchor (r : Reading) : Option Reading :=
  r.readAtom fun source =>
    (Source.anchorName source.tail).map fun (name, rest) => (.anchor name, rest)

def readTag (r : Reading) : Option Reading :=
  r.readAtom fun source =>
    (source.tagName r.inFlow).map fun (tag, rest) => (.tag tag, rest)

def readQuoted (r : Reading) (quote : Char) (style : Style) : Option Reading :=
  r.readAtom fun source =>
    (Source.quotedText quote source.length source.tail).map fun (text, rest) =>
      (.scalar (String.ofList text) style, rest)

def readBlockScalar (r : Reading) (style : Style) : Option Reading := do
  let r ← r.dropCandidate
  let (text, rest) ← Source.blockText (style = .folded) r.indent r.source.tail
  let next := { r with source := rest, keyAllowed := true }
  return next.push (.scalar (String.ofList text) style) r.here next.here

def readPlain (r : Reading) : Option Reading := do
  let r ← r.addCandidate
  let indent := (r.indent.map (· + 1)).getD 0
  let (text, broken, rest) ← r.source.plainWords r.inFlow indent (r.source.length + 1)
  let next := { r with source := rest, keyAllowed := broken }
  return next.push (.scalar (String.ofList text) .plain) r.here next.here

def readToken (r : Reading) (first : Located) (rest : Source) : Option Reading :=
  let c := first.char
  let spaceFollows := rest.atSpace
  if first.mark.column = 0 && c = '%' then r.readDirective
  else if r.source.atDocumentMarker then
    r.readDocumentMarker (if c = '-' then .documentStart else .documentEnd)
  else if c = '[' then r.readFlowStart .flowSequenceStart
  else if c = '\x7b' then r.readFlowStart .flowMappingStart
  else if c = ']' then r.readFlowEnd .flowSequenceEnd
  else if c = '\x7d' then r.readFlowEnd .flowMappingEnd
  else if c = ',' then r.readFlowEntry
  else if c = '-' && spaceFollows then r.readBlockEntry
  else if c = '?' && (r.inFlow || spaceFollows) then r.readKey
  else if c = ':' && (r.inFlow || spaceFollows) then r.readValue
  else if c = '*' then r.readAlias
  else if c = '&' then r.readAnchor
  else if c = '!' then r.readTag
  else if c = '|' && !r.inFlow then r.readBlockScalar .literal
  else if c = '>' && !r.inFlow then r.readBlockScalar .folded
  else if c = '\'' then r.readQuoted '\'' .singleQuoted
  else if c = '"' then r.readQuoted '"' .doubleQuoted
  else if r.source.atPlain r.inFlow then r.readPlain
  else none

def finish (r : Reading) : Option (List Lexeme) := do
  let final := if r.final.column = 0 then r.final else ⟨r.final.index, r.final.line + 1, 0⟩
  let r := { r with final := final }
  let r ← (r.closeBlocks none).dropCandidate
  return (r.push .streamEnd final final).lexemes.toList

def readAll : Nat → Reading → Option (List Lexeme)
  | 0, _ => none
  | rounds + 1, r => do
    let r ← (r.skipSpace (r.source.length + 1)).dropLapsed
    let r := r.closeBlocks (some r.here.column)
    match r.source with
    | [] => r.finish
    | first :: rest => readAll rounds (← r.readToken first rest)

end Reading

def lexemes? (text : String) : Option (List Lexeme) :=
  if text.toList.all isAllowed then
    let r := Reading.ofText text
    r.readAll (r.source.length + 1)
  else none

end ImageRecipe.Yaml
