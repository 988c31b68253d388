import CodeSurvey.Text.Blank
import CodeSurvey.Text.Numeral

/-!
# Number texts

Numbers as a user writes them: decimal, or base sixteen behind `0x` or `0X`, with blanks at both
ends ignored.

- `readWord` : an unsigned 64-bit word
- `readInteger` : a signed 64-bit integer; a word of its upper half stands for the negative number
  of the same bits, and a `-` in front negates
-/

namespace CodeSurvey.Text

/-- Why a text is no number. The text is the trimmed one. -/
inductive NumberError
  | malformedWord (text : String) (cause : NumeralError)
  | malformedInteger (text : String) (cause : NumeralError)
  | outOfRange (text : String)
  deriving DecidableEq, Repr

def NumberError.message : NumberError → String
  | .malformedWord text cause => "invalid address '" ++ text ++ "': " ++ cause.message
  | .malformedInteger text cause => "invalid number '" ++ text ++ "': " ++ cause.message
  | .outOfRange text => "'" ++ text ++ "' is out of range"

/-- A numeral below `2 ^ 64` in either base. -/
def readMagnitude : List Char → Except NumeralError Nat
  | '0' :: 'x' :: cs => readNumeral 16 (1 <<< 64) cs
  | '0' :: 'X' :: cs => readNumeral 16 (1 <<< 64) cs
  | cs => readNumeral 10 (1 <<< 64) cs

def readWord (s : String) : Except NumberError UInt64 :=
  let cs := trim s.toList
  match readMagnitude cs with
  | .ok n => .ok (UInt64.ofNat n)
  | .error e => .error (.malformedWord (String.ofList cs) e)

def readInteger (s : String) : Except NumberError Int :=
  let cs := trim s.toList
  match cs with
  | '-' :: ds =>
    match readMagnitude ds with
    | .ok n => if n ≤ 1 <<< 63 then .ok (-(n : Int)) else .error (.outOfRange (String.ofList cs))
    | .error e => .error (.malformedInteger (String.ofList cs) e)
  | _ =>
    match readMagnitude cs with
    | .ok n => .ok (Int.bmod n (1 <<< 64))
    | .error e => .error (.malformedInteger (String.ofList cs) e)

end CodeSurvey.Text
