import PresenceSeal.Number.Binary64
import PresenceSeal.Text.Numeral

/-! The shortest decimal that reads back as a given binary64 number, and its
text. Of the decimals with the fewest digits the nearest is taken, and of two
equally near ones the one with the even last digit. -/
namespace PresenceSeal.Number

structure Decimal where
  digits : Nat
  exponent : Int
  deriving DecidableEq, Repr

namespace Shortest

/-- A positive number and the interval of reals that round to it, all over one
denominator. The ends belong to the interval iff the significand is even. -/
structure Interval where
  low : Nat
  value : Nat
  high : Nat
  denominator : Nat
  closed : Bool

/-- The interval of a positive number. Below a power of two the neighbour is
only half as far away. -/
def interval (x : Binary64) : Interval :=
  let below := if x.significand = Nat.pow 2 52 ∧ Binary64.minExponent < x.exponent then 1 else 2
  let (unit, denominator) := Binary64.rescale 1 4 (-x.exponent)
  { low := (4 * x.significand - below) * unit
    value := 4 * x.significand * unit
    high := (4 * x.significand + 2) * unit
    denominator
    closed := x.significand % 2 = 0 }

def Interval.holds (i : Interval) (numerator denominator : Nat) : Bool :=
  let scaled := numerator * i.denominator
  let low := i.low * denominator
  let high := i.high * denominator
  if i.closed then low ≤ scaled && scaled ≤ high else low < scaled && scaled < high

/-- `digits * 10 ^ exponent` as a ratio of naturals. -/
def tenRatio (digits : Nat) : Int → Nat × Nat
  | .ofNat e => (digits * Nat.pow 10 e, 1)
  | .negSucc e => (digits, Nat.pow 10 (e + 1))

/-- The candidate of the grid of multiples of `10 ^ exponent`: of the value's two
neighbours those in the interval, and of two the nearer. -/
def candidate? (i : Interval) (exponent : Int) : Option Decimal :=
  let (gridUnit, gridScale) := tenRatio 1 exponent
  let numerator := i.value * gridScale
  let denominator := i.denominator * gridUnit
  let floor := numerator / denominator
  let remainder := numerator % denominator
  let inside (digits : Nat) : Bool :=
    let (n, d) := tenRatio digits exponent
    i.holds n d
  let upper := 2 * remainder > denominator || (2 * remainder == denominator && floor % 2 == 1)
  let (near, far) := if upper then (floor + 1, floor) else (floor, floor + 1)
  if inside near then some ⟨near, exponent⟩
  else if inside far then some ⟨far, exponent⟩
  else none

/-- The first grid with a candidate, from the coarse to the fine. -/
def search (i : Interval) (exponent : Int) : Nat → Option Decimal
  | 0 => none
  | steps + 1 => candidate? i exponent <|> search i (exponent - 1) steps

/-- The decimal without trailing zeros among its digits. -/
def strip (d : Decimal) : Nat → Decimal
  | 0 => d
  | steps + 1 =>
    if d.digits ≠ 0 ∧ d.digits % 10 = 0 then strip ⟨d.digits / 10, d.exponent + 1⟩ steps else d

/-- A power of ten that is larger than the value, as an exponent. -/
def topExponent (i : Interval) : Int :=
  let bits : Int := i.value.log2 - i.denominator.log2 + 2
  bits * 30103 / 100000 + 1

end Shortest

open Shortest in
/-- The shortest decimal of a positive number. A grid of the value's own exponent
is always fine enough, so the search ends within its steps. -/
def shortest (x : Binary64) : Decimal :=
  if x.isZero then ⟨0, 0⟩
  else
    let i := interval x
    match search i (topExponent i) 25 with
    | some d => strip d 20
    | none => ⟨x.significand, 0⟩

/-- The text of a number: always with a point or an exponent; positional when the
magnitude is at least `10 ^ -5` and below `10 ^ 16`. -/
def text (x : Binary64) : List Char :=
  let sign := if x.negative then ['-'] else []
  let d := shortest x
  let digits := Text.decimal d.digits
  let count := digits.length
  let point : Int := count + d.exponent
  let body : List Char :=
    if x.isZero then ['0', '.', '0']
    else if 0 ≤ d.exponent ∧ point ≤ 16 then
      digits ++ List.replicate d.exponent.toNat '0' ++ ['.', '0']
    else if 0 < point ∧ point ≤ 16 then
      digits.take point.toNat ++ ['.'] ++ digits.drop point.toNat
    else if -5 < point ∧ point ≤ 0 then
      ['0', '.'] ++ List.replicate (-point).toNat '0' ++ digits
    else
      let mantissa := if count = 1 then digits else digits.take 1 ++ ['.'] ++ digits.drop 1
      let exponent := point - 1
      let mark := if exponent < 0 then '-' else '+'
      mantissa ++ ['e', mark] ++ Text.decimal exponent.natAbs
  sign ++ body

end PresenceSeal.Number
