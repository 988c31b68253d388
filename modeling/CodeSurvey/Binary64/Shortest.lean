import CodeSurvey.Binary64.Basic
import CodeSurvey.Text.Decimal

/-!
# Shortest decimals of binary64 numbers

A number stands for all reals that round to it. Among the decimals there, those with the fewest
digits are short, and of those the one nearest to the number is chosen.

- `Binary64.Interval` : the reals that round to a number
- `Binary64.shortest` : the chosen decimal
-/

namespace CodeSurvey

open Text (Decimal)

namespace Binary64

/-- The reals between `low / 4` and `high / 4` times a power of two. -/
structure Interval where
  low : Nat
  high : Nat
  /-- The ends belong to it. -/
  closed : Bool
  exponent : Int
  deriving DecidableEq, Repr

/-- The reals that round to a number. They end half way to the neighbours, and the lower neighbour
of a power of two is nearer than the upper one. -/
def interval (x : Binary64) : Interval :=
  let isPower := x.significand == 1 <<< 52 && leastExponent < x.exponent
  { low := 4 * x.significand - (if isPower then 1 else 2)
    high := 4 * x.significand + 2
    closed := x.significand % 2 == 0
    exponent := x.exponent }

/-- How many digits a positive number has in front of the decimal point; negative if zeros follow it
first. Numbers are above `10 ^ -400`. -/
def places (x : Binary64) : Int :=
  (Nat.toDigits 10 (x.numerator * Nat.pow 10 400 / x.denominator)).length - 400

/-- Multiplies both sides of a comparison between `quarters / 4` times a power of two and `n` times
a power of ten until both are natural numbers. -/
def balance (exponent scale : Int) (quarters n : Nat) : Nat × Nat :=
  ((quarters <<< exponent.toNat) * Nat.pow 10 (-scale).toNat,
    (4 * n * Nat.pow 10 scale.toNat) <<< (-exponent).toNat)

/-- The interval holds `n` times ten to the power `scale`. -/
def Interval.contains (i : Interval) (n : Nat) (scale : Int) : Bool :=
  let (low, value) := balance i.exponent scale i.low n
  let (high, _) := balance i.exponent scale i.high n
  if i.closed then low ≤ value && value ≤ high else low < value && value < high

/-- How far `n` times ten to the power `scale` is from a number, for comparison at one scale. -/
def distance (x : Binary64) (n : Nat) (scale : Int) : Nat :=
  let (self, value) := balance x.exponent scale (4 * x.significand) n
  (self - value) + (value - self)

/-- The greatest `n` such that `n` times ten to the power `scale` is no more than the number. -/
def floorAt (x : Binary64) (scale : Int) : Nat :=
  x.numerator * Nat.pow 10 (-scale).toNat / (x.denominator * Nat.pow 10 scale.toNat)

/-- The decimal at one scale that reads back. Only the neighbours of the number can be nearest; of
two equally near ones the even one is taken. -/
def nearestAt? (x : Binary64) (scale : Int) : Option Decimal :=
  let below := x.floorAt scale
  let above := below + 1
  let chosen : Option Nat :=
    match x.interval.contains below scale, x.interval.contains above scale with
    | true, true =>
      match compare (x.distance below scale) (x.distance above scale) with
      | .lt => some below
      | .gt => some above
      | .eq => some (if below % 2 = 0 then below else above)
    | true, false => some below
    | false, true => some above
    | false, false => none
  chosen.map fun n => Decimal.ofNat n scale

/-- Seventeen digits are always enough. -/
def shortest (x : Binary64) : Decimal :=
  if x.isZero then ⟨[], 0⟩
  else
    let found := (List.range 17).findSome? fun (count : Nat) => x.nearestAt? (x.places - (count + 1))
    found.getD (Decimal.ofNat x.numerator 0)

end Binary64

end CodeSurvey
