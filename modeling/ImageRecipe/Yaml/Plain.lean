import ImageRecipe.Yaml.Folding

namespace ImageRecipe.Yaml

def isFlowIndicator (c : Char) : Bool :=
  c = ',' || c = '[' || c = ']' || c = '\x7b' || c = '\x7d'

def isIndicator (c : Char) : Bool :=
  isFlowIndicator c ||
    ['-', '?', ':', '#', '&', '*', '!', '|', '>', '\'', '"', '%', '@', '\u0060'].contains c

def Source.atPlain (flow : Bool) : Source → Bool
  | [] => false
  | here :: rest =>
    (!(isGap here.char || isBreak here.char) && !isIndicator here.char) ||
      (here.char = '-' && !(rest.head?.any (isGap ·.char))) ||
      (!flow && (here.char = '?' || here.char = ':') && !Source.atSpace rest)

/-- The rest of a word. A colon directly before an indicator of a flow collection is refused
within one. -/
def Source.plainWord (flow : Bool) : Source → Option (List Char × Source)
  | [] => some ([], [])
  | here :: rest =>
    if isGap here.char || isBreak here.char then some ([], here :: rest)
    else if flow && here.char = ':' &&
        rest.head?.any (fun next => isFlowIndicator next.char || next.char = '?') then none
    else if (here.char = ':' && Source.atSpace rest) || (flow && isFlowIndicator here.char) then
      some ([], here :: rest)
    else (Source.plainWord flow rest).map fun (word, rest) => (here.char :: word, rest)

/-- The text of a plain scalar, whether a line break stands behind it, and what follows. A scalar
of `n` characters takes at most `n` rounds. -/
def Source.plainWords (flow : Bool) (indent : Nat) :
    Nat → Source → Option (List Char × Bool × Source)
  | 0, source => some ([], false, source)
  | rounds + 1, source => do
    if source.atDocumentMarker || source.startsWith '#' then
      return ([], false, source)
    let (word, rest) ← source.plainWord flow
    if !rest.atSpace || rest.isEmpty then
      return (word, false, rest)
    let (spacing, next) ← rest.spacing indent false
    let broken := !spacing.breaks.isEmpty
    if !flow && next.head?.any (·.mark.column < indent) then
      return (word, broken, next)
    let (more, brokenLater, last) ← next.plainWords flow indent rounds
    if more.isEmpty then
      return (word, broken, last)
    return (word ++ spacing.folded ++ more, brokenLater, last)

end ImageRecipe.Yaml
