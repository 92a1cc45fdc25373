import ImageRecipe.Yaml.Source

namespace ImageRecipe.Yaml

inductive Chomping where
  | strip
  | clip
  | keep
deriving DecidableEq, Repr

structure BlockHeader where
  chomping : Chomping
  /-- The indentation relative to the surrounding block, if it is given. -/
  indent : Option Nat
deriving DecidableEq, Repr

namespace Source

def chomping? (source : Source) : Option (Chomping × Source) :=
  match source with
  | here :: rest =>
    if here.char = '+' then some (.keep, rest)
    else if here.char = '-' then some (.strip, rest)
    else none
  | [] => none

def indentDigit (source : Source) : Option (Option Nat × Source) :=
  match source with
  | here :: rest =>
    if here.char = '0' then none
    else if here.char.isDigit then some (some (here.char.toNat - '0'.toNat), rest)
    else some (none, source)
  | [] => some (none, [])

def blockHeader (source : Source) : Option (BlockHeader × Source) := do
  let (header, rest) ←
    match source.chomping? with
    | some (chomping, rest) => do
      let (indent, rest) ← rest.indentDigit
      pure ((⟨chomping, indent⟩ : BlockHeader), rest)
    | none => do
      let (indent, rest) ← source.indentDigit
      match indent, rest.chomping? with
      | some _, some (chomping, rest) => pure (⟨chomping, indent⟩, rest)
      | _, _ => pure (⟨.clip, indent⟩, rest)
  let rest := rest.skipGaps
  let rest := if rest.startsWith '#' then rest.skipLine else rest
  if rest.isEmpty then return (header, [])
  else if rest.atBreak then return (header, rest.tail)
  else none

/-- The line breaks of empty lines, the rightmost column that a line was indented to, and what
follows. Without an indentation to go by, all leading spaces count as indentation. A tab in its
place is refused. -/
def emptyLines (indent : Option Nat) : Source → Option (List Char × Nat × Source)
  | [] => some ([], 0, [])
  | here :: rest =>
    let column := here.mark.column
    let inIndent := indent.all (column < ·)
    if here.char = ' ' && inIndent then emptyLines indent rest
    else if here.char = '\t' && inIndent then none
    else if isBreak here.char then
      (emptyLines indent rest).map fun (breaks, widest, rest) =>
        (here.char :: breaks, max column widest, rest)
    else some ([], column, here :: rest)

/-- State of the lines read so far: the break behind the last one, whether it started with a gap,
and the breaks of the empty lines after it. -/
structure LineEnd where
  lineBreak : List Char
  startsBlank : Bool
  empties : List Char
deriving DecidableEq, Repr

/-- The breaks between two lines. Folding drops a single line feed, or turns it into a space when
no empty line follows, if neither line starts with a gap. -/
def LineEnd.joint (last : LineEnd) (folds : Bool) (startsBlank : Bool) : List Char :=
  if folds && last.lineBreak = ['\n'] && !last.startsBlank && !startsBlank then
    if last.empties.isEmpty then [' '] else last.empties
  else last.lineBreak ++ last.empties

def LineEnd.chomped (last : LineEnd) : Chomping → List Char
  | .strip => []
  | .clip => last.lineBreak
  | .keep => last.lineBreak ++ last.empties

/-- The text of the lines that start in column `indent`. A scalar of `n` characters takes at most
`n` rounds. -/
def blockLines (folds : Bool) (chomping : Chomping) (indent : Nat) :
    Nat → LineEnd → Source → Option (List Char × Source)
  | 0, _, _ => none
  | rounds + 1, last, source =>
    if source.head?.any (·.mark.column = indent) then do
      let startsBlank := source.head?.any (isGap ·.char)
      let (line, rest) := source.spanChars (!isBreak ·)
      let (empties, _, next) ← emptyLines (some indent) rest.tail
      let lineBreak := (rest.head?.map Located.char).toList
      let (more, final) ←
        blockLines folds chomping indent rounds ⟨lineBreak, startsBlank, empties⟩ next
      return (last.joint folds startsBlank ++ line ++ more, final)
    else some (last.chomped chomping, source)

def blockText (folds : Bool) (outer : Option Nat) (source : Source) :
    Option (List Char × Source) := do
  let (header, rest) ← source.blockHeader
  let given := header.indent.map fun n => outer.getD 0 + n
  let (empties, widest, rest) ← emptyLines given rest
  let indent := given.getD (max widest (max 1 ((outer.map (· + 1)).getD 0)))
  blockLines folds header.chomping indent (rest.length + 1) ⟨[], false, empties⟩ rest

end Source

end ImageRecipe.Yaml
