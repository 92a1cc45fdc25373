import ImageRecipe.Yaml.Folding

namespace ImageRecipe.Yaml

def shortEscapes : List (Char × Char) :=
  [('0', '\x00'), ('a', '\x07'), ('b', '\x08'), ('t', '\t'), ('\t', '\t'), ('n', '\n'),
   ('v', '\x0b'), ('f', '\x0c'), ('r', '\r'), ('e', '\x1b'), (' ', ' '), ('"', '"'), ('/', '/'),
   ('\\', '\\'), ('N', '\u0085'), ('_', '\u00a0'), ('L', '\u2028'), ('P', '\u2029')]

def codeEscapes : List (Char × Nat) := [('x', 2), ('u', 4), ('U', 8)]

def hexDigit? (c : Char) : Option Nat :=
  if c.isDigit then some (c.toNat - '0'.toNat)
  else if 'a' ≤ c ∧ c ≤ 'f' then some (c.toNat - 'a'.toNat + 10)
  else if 'A' ≤ c ∧ c ≤ 'F' then some (c.toNat - 'A'.toNat + 10)
  else none

def Source.hexCode (count : Nat) (source : Source) : Option (Nat × Source) := do
  let digits := source.take count
  if digits.length < count then none
  else
    let values ← digits.mapM (hexDigit? ·.char)
    return (values.foldl (fun code digit => 16 * code + digit) 0, source.drop count)

def charOfCode? (code : Nat) : Option Char :=
  if h : code.isValidChar then some (Char.ofNatAux code h) else none

def Source.escape (c : Char) (rest : Source) : Option (Char × Source) :=
  match codeEscapes.lookup c with
  | some count => do
    let (code, rest) ← rest.hexCode count
    return (← charOfCode? code, rest)
  | none => (shortEscapes.lookup c).map fun meaning => (meaning, rest)

/-- The text up to the closing quote, and what follows it. A scalar of `n` characters takes at
most `n` rounds. -/
def Source.quotedText (quote : Char) : Nat → Source → Option (List Char × Source)
  | 0, _ => none
  | _ + 1, [] => none
  | rounds + 1, here :: rest =>
    let thereafter (text : List Char) (next : Source) :=
      (next.quotedText quote rounds).map fun (more, last) => (text ++ more, last)
    if here.char = quote then
      if quote = '\'' && Source.startsWith rest '\'' then thereafter ['\''] rest.tail
      else some ([], rest)
    else if isGap here.char || isBreak here.char then do
      let (spacing, next) ← Source.spacing 0 false (here :: rest)
      if next.atDocumentMarker then none else thereafter spacing.folded next
    else if quote = '"' && here.char = '\\' then
      match rest with
      | [] => none
      | escaped :: rest =>
        if isBreak escaped.char then do
          let (spacing, next) ← Source.spacing 0 true rest
          if next.atDocumentMarker then none else thereafter spacing.breaks next
        else do
          let (c, next) ← Source.escape escaped.char rest
          thereafter [c] next
    else thereafter [here.char] rest

end ImageRecipe.Yaml
