/-! Finite binary64 numbers as exact dyadic values. A number keeps its sign, a
significand below `2 ^ 53` and the exponent of the significand's unit; every
operation computes the exact result as a ratio of naturals and rounds it once,
to nearest and ties to even. There is no infinity: a result too large is `none`. -/
namespace PresenceSeal.Number

/-- `(-1) ^ negative * significand * 2 ^ exponent`. -/
structure Binary64 where
  negative : Bool
  significand : Nat
  exponent : Int
  deriving DecidableEq, Repr, Inhabited

namespace Binary64

/-- The exponent of the smallest positive number's unit. -/
def minExponent : Int := -1074

/-- The exponent of the largest numbers' unit. -/
def maxExponent : Int := 971

def zero (negative : Bool) : Binary64 := ⟨negative, 0, minExponent⟩

def isZero (x : Binary64) : Bool := x.significand == 0

/-- The quotient rounded to the nearest natural, a half to the even neighbour. -/
def roundDiv (numerator denominator : Nat) : Nat :=
  let quotient := numerator / denominator
  let twice := 2 * (numerator % denominator)
  if twice < denominator then quotient
  else if denominator < twice then quotient + 1
  else quotient + quotient % 2

/-- `numerator / denominator / 2 ^ exponent` as a ratio of naturals. -/
def rescale (numerator denominator : Nat) (exponent : Int) : Nat × Nat :=
  match exponent with
  | .ofNat e => (numerator, denominator * Nat.pow 2 e)
  | .negSucc e => (numerator * Nat.pow 2 (e + 1), denominator)

/-- The exponent of the leading bit of a positive ratio. -/
def leading (numerator denominator : Nat) : Int :=
  let guess : Int := numerator.log2 - denominator.log2
  let (scaled, unit) := rescale numerator denominator guess
  if scaled < unit then guess - 1 else guess

/-- The nearest number to a ratio; `none` if it is out of range. -/
def ofRatio (negative : Bool) (numerator denominator : Nat) : Option Binary64 :=
  if numerator = 0 then some (zero negative)
  else
    let exponent := max minExponent (leading numerator denominator - 52)
    let (scaled, unit) := rescale numerator denominator exponent
    let significand := roundDiv scaled unit
    let x : Binary64 :=
      if significand = Nat.pow 2 53 then ⟨negative, Nat.pow 2 52, exponent + 1⟩
      else ⟨negative, significand, exponent⟩
    if x.exponent ≤ maxExponent then some x else none

def ofNat (n : Nat) : Option Binary64 := ofRatio false n 1

/-- The magnitude as a ratio of naturals. -/
def ratio (x : Binary64) : Nat × Nat := rescale x.significand 1 (-x.exponent)

/-- The product, rounded once. -/
def mul (x y : Binary64) : Option Binary64 :=
  let (a, b) := x.ratio
  let (c, d) := y.ratio
  ofRatio (x.negative != y.negative) (a * c) (b * d)

/-- The quotient by a number that is not zero, rounded once. -/
def div (x y : Binary64) : Option Binary64 :=
  let (a, b) := x.ratio
  let (c, d) := y.ratio
  ofRatio (x.negative != y.negative) (a * d) (b * c)

end Binary64

end PresenceSeal.Number
