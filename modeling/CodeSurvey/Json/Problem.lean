/-!
# What can be wrong with a JSON text

A text is read from left to right and the first problem decides. A problem knows what of the text
was left when it was met and how far it was looked ahead, so that it can be placed in a line and a
column.

- `Json.Cause` : what is wrong, with its `category` and wording
- `Json.Problem.message` : the wording with the place
-/

namespace CodeSurvey.Json

/-- The text ends too early, is not JSON, or is JSON of the wrong form. -/
inductive Category
  | eof
  | syntactic
  | data
  deriving DecidableEq, Repr

/-- What the text ended in the middle of. -/
inductive Unfinished
  | list
  | object
  | string
  | value
  deriving DecidableEq, Repr

def Unfinished.text : Unfinished → String
  | .list => "a list"
  | .object => "an object"
  | .string => "a string"
  | .value => "a value"

inductive Cause
  | ended (inside : Unfinished)
  | expectedColon
  | expectedListCommaOrEnd
  | expectedObjectCommaOrEnd
  | expectedIdent
  | expectedValue
  | invalidEscape
  | invalidNumber
  | numberOutOfRange
  | controlCharacter
  | keyMustBeString
  | loneSurrogate
  | unfinishedSurrogatePair
  | trailingComma
  | trailingCharacters
  | wrongKind (found expected : String)
  | wrongValue (found expected : String)
  | wrongLength (length : Nat) (expected : String)
  | unknownVariant (name : String) (known : List String)
  | missingField (name : String)
  | duplicateField (name : String)
  deriving DecidableEq, Repr

/-- A choice between names, as a reader would list them. -/
def choiceText (names : List String) : String :=
  match names.map fun n => "`" ++ n ++ "`" with
  | [] => "nothing"
  | [a] => a
  | [a, b] => a ++ " or " ++ b
  | many => "one of " ++ ", ".intercalate many

namespace Cause

def category : Cause → Category
  | .ended _ => .eof
  | .wrongKind .. | .wrongValue .. | .wrongLength .. | .unknownVariant .. | .missingField _
  | .duplicateField _ => .data
  | _ => .syntactic

def text : Cause → String
  | .ended inside => "EOF while parsing " ++ inside.text
  | .expectedColon => "expected `:`"
  | .expectedListCommaOrEnd => "expected `,` or `]`"
  | .expectedObjectCommaOrEnd => "expected `,` or `\x7d`"
  | .expectedIdent => "expected ident"
  | .expectedValue => "expected value"
  | .invalidEscape => "invalid escape"
  | .invalidNumber => "invalid number"
  | .numberOutOfRange => "number out of range"
  | .controlCharacter => "control character (\\u0000-\\u001F) found while parsing a string"
  | .keyMustBeString => "key must be a string"
  | .loneSurrogate => "lone leading surrogate in hex escape"
  | .unfinishedSurrogatePair => "unexpected end of hex escape"
  | .trailingComma => "trailing comma"
  | .trailingCharacters => "trailing characters"
  | .wrongKind found expected => "invalid type: " ++ found ++ ", expected " ++ expected
  | .wrongValue found expected => "invalid value: " ++ found ++ ", expected " ++ expected
  | .wrongLength length expected =>
    "invalid length " ++ toString length ++ ", expected " ++ expected
  | .unknownVariant name known =>
    "unknown variant `" ++ name ++ "`, expected " ++ choiceText known
  | .missingField name => "missing field `" ++ name ++ "`"
  | .duplicateField name => "duplicate field `" ++ name ++ "`"

end Cause

/-- A cause, and what of the text was left when it was met. A look at the next bytes may have told,
and these count as read. -/
structure Problem where
  cause : Cause
  rest : List Char
  ahead : Nat := 0
  deriving DecidableEq, Repr

namespace Problem

def category (p : Problem) : Category :=
  p.cause.category

/-- How many bytes of a text were read. -/
def offset (p : Problem) (whole : String) : Nat :=
  min (whole.utf8ByteSize - (String.ofList p.rest).utf8ByteSize + p.ahead) whole.utf8ByteSize

/-- Line from one, and column in bytes, behind bytes that were read. -/
def lineAndColumn (read : List UInt8) : Nat × Nat :=
  let newline := '\n'.toUInt8
  (read.count newline + 1, (read.reverse.takeWhile (· ≠ newline)).length)

/-- The wording with the place in the whole text. -/
def message (p : Problem) (whole : String) : String :=
  let (line, column) := lineAndColumn (whole.toUTF8.toList.take (p.offset whole))
  p.cause.text ++ " at line " ++ toString line ++ " column " ++ toString column

end Problem

end CodeSurvey.Json
