import CodeSurvey.Binary64.Shortest
import CodeSurvey.Json.Reader

/-!
# JSON numbers

A number is read as it is written. Where a value is wanted, integers of 64 bits are exact, and
everything else is a binary64 number: as many digits as a 64-bit word holds count, those behind them
only move the decimal point.

- `Json.Literal` : a number as written
- `readLiteral` : its grammar
- `Literal.magnitude?` : its binary64 number, if that is finite
- `readNumber` : a natural, a negative integer, or neither
-/

namespace CodeSurvey.Json

/-! ## Grammar -/

def isDigit (c : Char) : Bool :=
  '0' ≤ c && c ≤ '9'

/-- A number with one more digit. -/
def appendDigit (n : Nat) (c : Char) : Nat :=
  n * 10 + (c.toNat - '0'.toNat)

/-- The value of decimal digits. -/
def decimal (ds : List Char) : Nat :=
  ds.foldl appendDigit 0

/-- An exponent as written. -/
structure Exponent where
  negative : Bool
  digits : List Char
  deriving DecidableEq, Repr

/-- A number as written, without its marks. -/
structure Literal where
  negative : Bool
  whole : List Char
  /-- Nothing if there is no decimal point. -/
  fraction : List Char
  exponent : Option Exponent
  deriving DecidableEq, Repr

/-- At least one digit. `onEnd` says what the end of the text means here. -/
def readDigits (onEnd : Cause) : Reader (List Char)
  | [] => fail onEnd []
  | c :: cs =>
    if isDigit c then .ok (c :: cs.takeWhile isDigit, cs.dropWhile isDigit)
    else failAt .invalidNumber (c :: cs)

/-- Digits of which only a lone one may be zero in front. -/
def readIntegerDigits (onEnd : Cause) : Reader (List Char)
  | '0' :: c :: cs =>
    if isDigit c then failAt .invalidNumber (c :: cs) else .ok (['0'], c :: cs)
  | cs => readDigits onEnd cs

/-- The digits behind a decimal point, if there is one. -/
def readFraction (onEnd : Cause) : Reader (List Char)
  | '.' :: cs => readDigits onEnd cs
  | cs => .ok ([], cs)

/-- The exponent, if there is one. -/
def readExponent (onEnd : Cause) : Reader (Option Exponent)
  | [] => .ok (none, [])
  | c :: cs =>
    if c = 'e' ∨ c = 'E' then
      let behind (negative : Bool) (cs : List Char) :=
        (readDigits onEnd cs).map fun (ds, rest) => (some ⟨negative, ds⟩, rest)
      match cs with
      | '-' :: cs => behind true cs
      | '+' :: cs => behind false cs
      | cs => behind false cs
    else .ok (none, c :: cs)

/-- A number behind its sign. -/
def readLiteral (onEnd : Cause) (negative : Bool) : Reader Literal := fun cs => do
  let (whole, cs) ← readIntegerDigits onEnd cs
  let (fraction, cs) ← readFraction onEnd cs
  let (exponent, cs) ← readExponent onEnd cs
  return (⟨negative, whole, fraction, exponent⟩, cs)

/-! ## Exponents -/

namespace Exponent

/-- The greatest exponent that is told from larger ones. -/
def limit : Nat := 1 <<< 31 - 1

def value (e : Exponent) : Int :=
  if e.negative then -(decimal e.digits : Int) else decimal e.digits

def isHuge (e : Exponent) : Bool :=
  limit < decimal e.digits

/-- The digits behind the one that exceeds the limit, in a number that starts with `n`. -/
def excessAfter : (n : Nat) → List Char → List Char
  | _, [] => []
  | n, c :: cs => if appendDigit n c ≤ limit then excessAfter (appendDigit n c) cs else cs

def excess (e : Exponent) : List Char :=
  excessAfter 0 e.digits

end Exponent

/-! ## Values -/

/-- Appends digits for as long as the number is a 64-bit word, and gives the digits left over. -/
def appendDigits : Nat → List Char → Nat × List Char
  | n, [] => (n, [])
  | n, c :: cs =>
    if appendDigit n c < 1 <<< 64 then appendDigits (appendDigit n c) cs else (n, c :: cs)

namespace Literal

def isInteger (l : Literal) : Bool :=
  l.fraction.isEmpty && l.exponent.isNone

/-- The digits that count and the power of ten that they are multiplied with, the exponent apart.
Of the digits in front of the decimal point those left over count for the power. -/
def significand (l : Literal) : Nat × Int :=
  let (n, large) := appendDigits 0 l.whole
  let (n, small) := appendDigits n l.fraction
  (n, (large.length : Int) - (l.fraction.length - small.length : Nat))

/-- The magnitude as a binary64 number, nothing if that is not finite. -/
def magnitude? (l : Literal) : Option Binary64 :=
  let (n, power) := l.significand
  match l.exponent with
  | none => Binary64.ofDecimal? n power
  | some e =>
    if !e.isHuge then Binary64.ofDecimal? n (power + e.value)
    else if n = 0 ∨ e.negative then some .zero
    else none

end Literal

/-- A number as far as it matters. -/
inductive Number
  | natural (n : Nat)
  | negative (n : Nat)
  | fractional (isNegative : Bool) (magnitude : Binary64)
  deriving DecidableEq, Repr

namespace Number

/-- Integers of 64 bits are exact; everything else counts as a fraction, also a zero with a sign. -/
def ofLiteral? (l : Literal) : Option Number :=
  let n := decimal l.whole
  if l.isInteger && !l.negative && n < 1 <<< 64 then some (.natural n)
  else if l.isInteger && l.negative && 0 < n && n ≤ 1 <<< 63 then some (.negative n)
  else l.magnitude?.map (.fractional l.negative)

/-- Positional from five places behind the decimal point to sixteen in front of it. -/
def magnitudeText (x : Binary64) : String :=
  let d := x.shortest
  if -5 < d.point ∧ d.point ≤ 16 then d.positional else d.scientific

def text : Number → String
  | .natural n => "integer `" ++ toString n ++ "`"
  | .negative n => "integer `-" ++ toString n ++ "`"
  | .fractional isNegative x =>
    "floating point `" ++ (if isNegative then "-" else "") ++ magnitudeText x ++ "`"

end Number

/-- A number of a finite magnitude. -/
def readNumber : Reader Number := fun cs => do
  let (l, rest) ← match cs with
    | '-' :: ds => readLiteral (.ended .value) true ds
    | ds => readLiteral (.ended .value) false ds
  match Number.ofLiteral? l with
  | some n => return (n, rest)
  | none => fail .numberOutOfRange (((l.exponent.map Exponent.excess).getD []) ++ rest)

end CodeSurvey.Json
