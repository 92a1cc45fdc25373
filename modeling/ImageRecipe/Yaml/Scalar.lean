import ImageRecipe.Decimal.Shortest
import ImageRecipe.Text.Trim
import ImageRecipe.Yaml.Node

namespace ImageRecipe.Yaml

inductive FloatValue where
  | nan
  | infinity (negative : Bool)
  | finite (negative : Bool) (magnitude : Decimal.Magnitude)
deriving DecidableEq, Repr

def FloatValue.text : FloatValue → String
  | nan => "NaN"
  | infinity negative => if negative then "-inf" else "inf"
  | finite negative magnitude =>
    (if negative then "-" else "") ++ String.ofList magnitude.text

/-- The kinds of numbers: whole ones that fit into 64 bits, with or without a sign, those that
need 128, and floating-point ones. -/
inductive Meaning where
  | null
  | bool (b : Bool)
  | natural (n : Nat)
  | negative (n : Int)
  | wideNatural (n : Nat)
  | wideNegative (n : Int)
  | float (x : FloatValue)
  | text (s : String)
deriving DecidableEq, Repr

namespace Scalar

def isNullWord (text : String) : Bool :=
  ["null", "Null", "NULL", "~"].contains text

def bool? (text : String) : Option Bool :=
  if ["true", "True", "TRUE"].contains text then some true
  else if ["false", "False", "FALSE"].contains text then some false
  else none

def startsWithSign (cs : List Char) : Bool :=
  cs.head? == some '+' || cs.head? == some '-'

def digit? (radix : Nat) (c : Char) : Option Nat :=
  (hexDigit? c).filter (· < radix)

def digits? (radix : Nat) (cs : List Char) : Option Nat :=
  if cs.isEmpty then none
  else (cs.mapM (digit? radix)).map (·.foldl (fun n digit => radix * n + digit) 0)

def radixMarks : List (List Char × Nat) :=
  [(['0', 'x'], 16), (['0', 'o'], 8), (['0', 'b'], 2)]

/-- Several digits of which the first is a zero, after an optional sign. They are no number. -/
def hasLeadingZero (cs : List Char) : Bool :=
  let digits := if startsWithSign cs then cs.tail else cs
  1 < digits.length && digits.head? == some '0' && digits.all Char.isDigit

def magnitude? (cs : List Char) : Option Nat :=
  match radixMarks.findSome? fun mark => (Text.rest? mark.1 cs).map (mark.2, ·) with
  | some (radix, digits) => digits? radix digits
  | none => if hasLeadingZero cs then none else digits? 10 cs

def natural? (bits : Nat) (cs : List Char) : Option Nat :=
  (magnitude? (if cs.head? == some '+' then cs.tail else cs)).filter (· < Decimal.twoTo bits)

def negative? (bits : Nat) (cs : List Char) : Option Int :=
  if cs.head? == some '-' then
    ((magnitude? cs.tail).filter (· ≤ Decimal.twoTo (bits - 1))).map fun n => -(n : Int)
  else none

def whole? (cs : List Char) : Option Meaning :=
  ((natural? 64 cs).map Meaning.natural).or
    (((negative? 64 cs).map Meaning.negative).or
      (((natural? 128 cs).map Meaning.wideNatural).or
        ((negative? 128 cs).map Meaning.wideNegative)))

def exponent? (cs : List Char) : Option Int :=
  match cs with
  | [] => some 0
  | e :: cs =>
    if e = 'e' || e = 'E' then
      let digits := if startsWithSign cs then cs.tail else cs
      (digits? 10 digits).map fun n => if cs.head? == some '-' then -(n : Int) else n
    else none

def decimal? (cs : List Char) : Option (Nat × Int) := do
  let whole := cs.takeWhile Char.isDigit
  let rest := cs.dropWhile Char.isDigit
  let behindPoint := if rest.head? == some '.' then rest.tail else []
  let fraction := behindPoint.takeWhile Char.isDigit
  let rest := if rest.head? == some '.' then behindPoint.dropWhile Char.isDigit else rest
  let digits ← digits? 10 (whole ++ fraction)
  let power ← exponent? rest
  return (digits, power - fraction.length)

def float? (cs : List Char) : Option FloatValue :=
  let unsigned := if cs.head? == some '+' then cs.tail else cs
  let negative := cs.head? == some '-'
  let body := if negative then cs.tail else unsigned
  if [".inf", ".Inf", ".INF"].contains (String.ofList body) then some (.infinity negative)
  else if [".nan", ".NaN", ".NAN"].contains (String.ofList cs) then some .nan
  else do
    let (digits, power) ← decimal? body
    return .finite negative (← Decimal.nearestDecimal? digits power)

def plainMeaning (text : String) : Meaning :=
  let cs := text.toList
  if text = "" || isNullWord text then .null
  else
    match bool? text, whole? cs with
    | some b, _ => .bool b
    | none, some n => n
    | none, none =>
      if hasLeadingZero cs then .text text
      else ((float? cs).map Meaning.float).getD (.text text)

def boolTag : String := "tag:yaml.org,2002:bool"
def intTag : String := "tag:yaml.org,2002:int"
def floatTag : String := "tag:yaml.org,2002:float"
def nullTag : String := "tag:yaml.org,2002:null"

def isOwnTag (tag : Option String) : Bool :=
  tag.any (·.toList.head? == some '!')

/-- The meaning of a scalar. When a tag demands what the text is not, the result names what was
demanded. -/
def meaning (tag : Option String) (style : Style) (text : String) : Except String Meaning :=
  let demand (name : String) (found : Option Meaning) : Except String Meaning :=
    match found with
    | some m => .ok m
    | none => .error name
  if tag = some boolTag then demand "a boolean" ((bool? text).map Meaning.bool)
  else if tag = some intTag then demand "an integer" (whole? text.toList)
  else if tag = some floatTag then demand "a float" ((float? text.toList).map Meaning.float)
  else if tag = some nullTag then demand "null" (if isNullWord text then some .null else none)
  else if style = .plain && (tag.isNone || isOwnTag tag) then .ok (plainMeaning text)
  else .ok (.text text)

end Scalar

end ImageRecipe.Yaml
