/-!
Magnitudes of the 64-bit binary floating-point format, and the one nearest to a fraction. All is
exact arithmetic on natural numbers: a magnitude counts the format's smallest step, `2 ^ -1074`.
-/
namespace ImageRecipe.Decimal

def twoTo (n : Nat) : Nat := Nat.pow 2 n

def tenTo (n : Nat) : Nat := Nat.pow 10 n

def stepBits : Nat := 1074

structure Magnitude where
  significand : Nat
  unit : Nat
deriving DecidableEq, Repr

def Magnitude.steps (x : Magnitude) : Nat :=
  x.significand * twoTo x.unit

/-- The quotient rounded to the nearest natural number, a half to the even neighbour. -/
def roundHalfEven (numerator denominator : Nat) : Nat :=
  let q := numerator / denominator
  let twice := 2 * (numerator % denominator)
  if twice < denominator then q
  else if denominator < twice then q + 1
  else q + q % 2

def nearest? (numerator denominator : Nat) : Option Magnitude :=
  let steps := numerator * twoTo stepBits
  let unit := (steps / denominator).log2 - 52
  let rounded := roundHalfEven steps (denominator * twoTo unit)
  let (significand, unit) := if rounded = twoTo 53 then (twoTo 52, unit + 1) else (rounded, unit)
  if unit ≤ 2045 then some ⟨significand, unit⟩ else none

/-- The magnitude nearest to `digits * 10 ^ power`. Powers far outside the format's range are
settled without computing them. -/
def nearestDecimal? (digits : Nat) (power : Int) : Option Magnitude :=
  if digits = 0 then some ⟨0, 0⟩
  else
    let size : Int := (Nat.toDigits 10 digits).length + power
    if 400 < size then none
    else if size < -400 then some ⟨0, 0⟩
    else if 0 ≤ power then nearest? (digits * tenTo power.toNat) 1
    else nearest? digits (tenTo (-power).toNat)

end ImageRecipe.Decimal
