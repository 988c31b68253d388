/-!
# Unsigned numerals

A numeral is an optional `+` and one or more digits of a base, of a value below a limit. It is read
from left to right and the first fault decides; where one digit is both foreign to the base and
past the limit, it counts as foreign.

- `digit?` : the value of a digit character
- `readNumeral` : the value of a numeral, or why it has none
-/

namespace CodeSurvey.Text

/-- Why a text is no numeral. -/
inductive NumeralError
  | empty
  | invalidDigit
  | tooLarge
  deriving DecidableEq, Repr

def NumeralError.message : NumeralError → String
  | .empty => "cannot parse integer from empty string"
  | .invalidDigit => "invalid digit found in string"
  | .tooLarge => "number too large to fit in target type"

/-- The value of a digit character in a base up to sixteen; letters of both cases count. -/
def digit? (base : Nat) (c : Char) : Option Nat :=
  let value :=
    if '0' ≤ c ∧ c ≤ '9' then c.toNat - '0'.toNat
    else if 'a' ≤ c ∧ c ≤ 'f' then c.toNat - 'a'.toNat + 10
    else if 'A' ≤ c ∧ c ≤ 'F' then c.toNat - 'A'.toNat + 10
    else base
  if value < base then some value else none

/-- Appends the digits of a text to the digits already read, whose value is `acc`. -/
def readDigits (base limit : Nat) : Nat → List Char → Except NumeralError Nat
  | acc, [] => .ok acc
  | acc, c :: cs =>
    match digit? base c with
    | none => .error .invalidDigit
    | some d =>
      if acc * base + d < limit then readDigits base limit (acc * base + d) cs
      else .error .tooLarge

/-- The value of a numeral below `limit`. A sign without digits is an invalid digit. -/
def readNumeral (base limit : Nat) : List Char → Except NumeralError Nat
  | [] => .error .empty
  | ['+'] => .error .invalidDigit
  | '+' :: cs => readDigits base limit 0 cs
  | cs => readDigits base limit 0 cs

end CodeSurvey.Text
