import ImageRecipe.Yaml.Quoted

namespace ImageRecipe.Yaml

/-- A tag as it is written: a handle, which a directive may define, and what is appended to the
meaning of the handle. -/
structure TagName where
  handle : String
  suffix : String
deriving DecidableEq, Repr

inductive Directive where
  | version (major minor : Nat)
  | tag (handle expansion : String)
deriving DecidableEq, Repr

namespace Source

def anchorName (source : Source) : Option (String × Source) :=
  let (name, rest) := source.spanChars isNameChar
  let ends := rest.atSpace ||
    rest.head?.any fun here =>
      ['?', ':', ',', ']', '\x7d', '%', '@', '\u0060'].contains here.char
  if name.isEmpty || !ends then none else some (String.ofList name, rest)

def isUriChar (bracketed : Bool) (c : Char) : Bool :=
  isNameChar c || ";/?:@&=+$.%!~*'()".contains c || (bracketed && (c = ',' || c = '[' || c = ']'))

def octet : Source → Option (Nat × Source)
  | percent :: high :: low :: rest => do
    if percent.char = '%' then
      return (16 * (← hexDigit? high.char) + (← hexDigit? low.char), rest)
    else none
  | _ => none

def leadingOctet? (n : Nat) : Option (Nat × Nat) :=
  if n < 0x80 then some (0, n)
  else if n / 0x20 = 6 then some (1, n % 0x20)
  else if n / 0x10 = 14 then some (2, n % 0x10)
  else if n / 0x8 = 30 then some (3, n % 0x8)
  else none

def furtherOctets : Nat → Nat → Source → Option (Nat × Source)
  | 0, code, source => some (code, source)
  | count + 1, code, source => do
    let (n, rest) ← source.octet
    if n / 0x40 = 2 then furtherOctets count (0x40 * code + n % 0x40) rest else none

def escapedChar (source : Source) : Option (Char × Source) := do
  let (n, rest) ← source.octet
  let (count, bits) ← leadingOctet? n
  let (code, rest) ← furtherOctets count bits rest
  return (Char.ofNat code, rest)

def uriChars (bracketed : Bool) : Nat → Source → Option (List Char × Source)
  | 0, source => some ([], source)
  | rounds + 1, source =>
    match source with
    | [] => some ([], [])
    | here :: rest =>
      if !isUriChar bracketed here.char then some ([], source)
      else do
        let (c, rest) ← if here.char = '%' then source.escapedChar else pure (here.char, rest)
        let (more, last) ← uriChars bracketed rounds rest
        return (c :: more, last)

def uri (bracketed : Bool) (source : Source) : Option (String × Source) := do
  let (cs, rest) ← source.uriChars bracketed source.length
  if cs.isEmpty then none else return (String.ofList cs, rest)

/-- The text from an exclamation mark over a name to a second exclamation mark, if there is
one. -/
def tagHandle : Source → Option (List Char × Source)
  | [] => none
  | here :: rest =>
    if here.char = '!' then
      let (name, rest) := Source.spanChars isNameChar rest
      if Source.startsWith rest '!' then some ('!' :: name ++ ['!'], rest.tail)
      else some ('!' :: name, rest)
    else none

def isNamedHandle (handle : List Char) : Bool :=
  1 < handle.length && handle.getLast? == some '!'

/-- A tag other than one in angle brackets: with a handle, or local with all of it as suffix. A
lone exclamation mark has no handle. -/
def shorthandTag (source : Source) : Option (TagName × Source) := do
  let (head, rest) ← source.tagHandle
  if isNamedHandle head then
    let (suffix, rest) ← rest.uri false
    return (⟨String.ofList head, suffix⟩, rest)
  else
    let (cs, rest) ← rest.uriChars false rest.length
    let suffix := head.tail ++ cs
    if suffix.isEmpty then return (⟨"", "!"⟩, rest)
    else return (⟨"!", String.ofList suffix⟩, rest)

def verbatimTag (source : Source) : Option (TagName × Source) := do
  let (suffix, rest) ← Source.uri true source.tail
  if rest.startsWith '>' then return (⟨"", suffix⟩, rest.tail) else none

/-- A tag and what follows it, which is white space, or a comma within a flow collection. -/
def tagName (flow : Bool) (source : Source) : Option (TagName × Source) := do
  let (tag, rest) ←
    if Source.startsWith source.tail '<' then verbatimTag source.tail else source.shorthandTag
  if rest.atSpace || (flow && rest.startsWith ',') then return (tag, rest) else none

def versionNumber (source : Source) : Option (Nat × Source) :=
  let (digits, rest) := source.spanChars Char.isDigit
  if digits.isEmpty || 9 < digits.length then none
  else some (Nat.ofDigitChars 10 digits 0, rest)

def versionDirective (source : Source) : Option (Directive × Source) := do
  let (major, rest) ← source.skipGaps.versionNumber
  if rest.startsWith '.' then
    let (minor, rest) ← Source.versionNumber rest.tail
    return (.version major minor, rest)
  else none

def tagDirective (source : Source) : Option (Directive × Source) := do
  let (handle, rest) ← source.skipGaps.tagHandle
  if !isNamedHandle handle && handle.length ≠ 1 then none
  else if !rest.head?.any (isGap ·.char) then none
  else
    let (expansion, rest) ← rest.skipGaps.uri true
    if rest.atSpace then return (.tag (String.ofList handle) expansion, rest) else none

def directive (source : Source) : Option (Directive × Source) := do
  let (name, rest) := source.spanChars isNameChar
  if name.isEmpty || !rest.atSpace then none
  else
    let (directive, rest) ←
      if name = ['Y', 'A', 'M', 'L'] then rest.versionDirective
      else if name = ['T', 'A', 'G'] then rest.tagDirective
      else none
    let rest := rest.skipGaps
    let rest := if rest.startsWith '#' then rest.skipLine else rest
    if rest.isEmpty then return (directive, [])
    else if rest.atBreak then return (directive, rest.tail)
    else none

end Source

end ImageRecipe.Yaml
