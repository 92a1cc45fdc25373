import ImageRecipe.Decimal.Binary64

/-!
The shortest decimal that reads back as a given magnitude, written in positional notation. On the
decimal grid of one digit, then of two, and so on, only the two neighbours of the magnitude are
tried: if any point of a grid rounds to the magnitude, one of them does.
-/
namespace ImageRecipe.Decimal

structure Numeral where
  digits : Nat
  power : Int
deriving DecidableEq, Repr

def Numeral.stepFraction (d : Numeral) : Nat × Nat :=
  if 0 ≤ d.power then (d.digits * tenTo d.power.toNat * twoTo stepBits, 1)
  else (d.digits * twoTo stepBits, tenTo (-d.power).toNat)

/-- Whether a decimal lies among the reals that round to a magnitude. The ends of that interval
belong to it when the significand is even; below a power of two it reaches half as far. -/
def Magnitude.attracts (x : Magnitude) (d : Numeral) : Bool :=
  let (numerator, denominator) := d.stepFraction
  let scale := twoTo x.unit * denominator
  let low := (4 * x.significand - if x.significand = twoTo 52 ∧ x.unit ≠ 0 then 1 else 2) * scale
  let high := (4 * x.significand + 2) * scale
  let value := 4 * numerator
  if x.significand % 2 = 0 then low ≤ value && value ≤ high else low < value && value < high

def Magnitude.leadingPower (x : Magnitude) : Int :=
  ((Nat.toDigits 10 (x.steps * tenTo 400 / twoTo stepBits)).length : Int) - 401

/-- Of the two neighbours of a magnitude on the grid of multiples of `10 ^ power`, the nearer one
that rounds to it; half-way between them, the upper one. -/
def Magnitude.neighbour? (x : Magnitude) (power : Int) : Option Numeral :=
  let (numerator, denominator) := Numeral.stepFraction ⟨1, power⟩
  let below := x.steps * denominator / numerator
  let remainder := x.steps * denominator % numerator
  let lower : Numeral := ⟨below, power⟩
  let upper : Numeral := ⟨below + 1, power⟩
  let (first, second) := if 2 * remainder < numerator then (lower, upper) else (upper, lower)
  if x.attracts first then some first else if x.attracts second then some second else none

/-- The decimal with the fewest digits that reads back, and of those the nearest. The first grid is
one of which only the next power of ten can be hit; then seventeen digits always suffice. -/
def Magnitude.shortest (x : Magnitude) : Numeral :=
  let top := x.leadingPower + 1
  ((List.range 18).findSome? fun (n : Nat) => x.neighbour? (top - n)).getD ⟨x.significand, 0⟩

def Numeral.positional (d : Numeral) : List Char :=
  let digits := Nat.toDigits 10 d.digits
  if 0 ≤ d.power then
    digits ++ List.replicate d.power.toNat '0' ++ ['.', '0']
  else
    let places := (-d.power).toNat
    let padded := List.replicate (places + 1 - digits.length) '0' ++ digits
    padded.take (padded.length - places) ++ '.' :: padded.drop (padded.length - places)

def Magnitude.text (x : Magnitude) : List Char :=
  if x.significand = 0 then ['0', '.', '0'] else x.shortest.positional

end ImageRecipe.Decimal
