/-!
# Binary64 magnitudes

The finite numbers of the 64-bit binary format without their signs, and arithmetic on them in exact
natural numbers. Each result is rounded to the nearest such number, of two equally near ones to the
one with an even significand.

- `Binary64` : a significand below `2 ^ 53` and a power of two
- `Binary64.round?` : the number nearest to a fraction
- `mul?`, `div?` : rounded products and quotients
- `ofDecimal?` : the number that a decimal is read as
-/

namespace CodeSurvey

/-- The number `significand * 2 ^ exponent`. The exponent is the least possible one, so a
significand below `2 ^ 52` stands with the exponent -1074 only. -/
structure Binary64 where
  significand : Nat
  exponent : Int
  deriving DecidableEq, Repr

namespace Binary64

def leastExponent : Int := -1074

/-- The greatest exponent of a finite number. -/
def greatestExponent : Int := 971

def zero : Binary64 :=
  ⟨0, leastExponent⟩

def isZero (x : Binary64) : Bool :=
  x.significand == 0

/-! ## Fractions -/

/-- The number is `numerator / denominator`, one of which is a power of two. -/
def numerator (x : Binary64) : Nat :=
  x.significand <<< x.exponent.toNat

def denominator (x : Binary64) : Nat :=
  1 <<< (-x.exponent).toNat

/-! ## Rounding -/

/-- The natural number nearest to a fraction, of two equally near ones the even one. -/
def roundQuotient (num den : Nat) : Nat :=
  let q := num / den
  match compare (2 * (num % den)) den with
  | .lt => q
  | .gt => q + 1
  | .eq => q + q % 2

/-- A fraction divided by a power of two, as a fraction. -/
def scaleDown (num den : Nat) (exponent : Int) : Nat × Nat :=
  (num <<< (-exponent).toNat, den <<< exponent.toNat)

/-- The greatest power of two that is no more than a fraction. -/
def log2Quotient (num den : Nat) : Int :=
  let guess : Int := num.log2 - den.log2
  let (n, d) := scaleDown num den guess
  if d ≤ n then guess else guess - 1

/-- The number nearest to a fraction, nothing if that lies beyond the greatest finite one. -/
def round? (num den : Nat) : Option Binary64 :=
  if num = 0 then some zero
  else
    let exponent := max leastExponent (log2Quotient num den - 52)
    let (n, d) := scaleDown num den exponent
    let rounded := roundQuotient n d
    let x : Binary64 :=
      if rounded = 1 <<< 53 then ⟨1 <<< 52, exponent + 1⟩ else ⟨rounded, exponent⟩
    if x.exponent ≤ greatestExponent then some x else none

def ofNat? (n : Nat) : Option Binary64 :=
  round? n 1

/-! ## Arithmetic -/

def mul? (x y : Binary64) : Option Binary64 :=
  round? (x.numerator * y.numerator) (x.denominator * y.denominator)

/-- A quotient by a number that is not zero. -/
def div? (x y : Binary64) : Option Binary64 :=
  round? (x.numerator * y.denominator) (x.denominator * y.numerator)

/-- The power of ten is rounded before the product or the quotient is. -/
def scaleByTen? (x : Binary64) (power : Int) : Option Binary64 := do
  let ten ← ofNat? (Nat.pow 10 power.natAbs)
  if 0 ≤ power then x.mul? ten else x.div? ten

/-- A number below `2 ^ 64` times a power of ten. The number, the power and the result are each
rounded. No power above 308 is finite, and one below -308 is taken in two steps. -/
def ofDecimal? (n : Nat) (power : Int) : Option Binary64 := do
  let x ← ofNat? n
  if x.isZero then some zero
  else if 308 < power then none
  else if -308 ≤ power then x.scaleByTen? power
  else if power < -616 then some zero
  else (← x.scaleByTen? (-308)).scaleByTen? (power + 308)

end Binary64

end CodeSurvey
