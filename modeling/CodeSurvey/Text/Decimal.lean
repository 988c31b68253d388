/-!
# Decimal fractions

A decimal fraction as its digits and the place of the decimal point, and the two ways to write one.

- `Decimal` : digits and point
- `Decimal.positional` : digits on either side of the point
- `Decimal.scientific` : one digit in front of the point, and a power of ten
-/

namespace CodeSurvey.Text

/-- The digits behind `0.`, times ten to the power `point`. -/
structure Decimal where
  digits : List Char
  point : Int
  deriving DecidableEq, Repr

namespace Decimal

/-- A natural number times ten to the power `scale`. Zeros at the end of the digits are left out. -/
def ofNat (n : Nat) (scale : Int) : Decimal :=
  let digits := Nat.toDigits 10 n
  ⟨(digits.reverse.dropWhile (· = '0')).reverse, digits.length + scale⟩

/-- At least one digit on either side of the point. -/
def positional (d : Decimal) : String :=
  let whole := d.digits.take d.point.toNat
    ++ List.replicate (d.point.toNat - d.digits.length) '0'
  let fraction := List.replicate (-d.point).toNat '0' ++ d.digits.drop d.point.toNat
  String.ofList (if whole.isEmpty then ['0'] else whole) ++ "."
    ++ String.ofList (if fraction.isEmpty then ['0'] else fraction)

/-- The power of ten has a sign. A lone digit has no point. -/
def scientific (d : Decimal) : String :=
  let power := d.point - 1
  String.ofList (d.digits.take 1 ++ (if d.digits.length ≤ 1 then [] else '.' :: d.digits.drop 1))
    ++ "e" ++ (if power < 0 then "-" else "+") ++ toString power.natAbs

end Decimal

end CodeSurvey.Text
