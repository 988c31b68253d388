import CodeSurvey.Json.Problem
import CodeSurvey.Text.Numeral

/-!
# Reading JSON tokens

Readers take the characters left and give a result and the characters behind it, or the first
problem.

- `skipBlanks`, `readColon` : what stands between tokens
- `readStringBody` : a string whose escapes form whole characters
- `skipStringBody` : a string that is passed over
-/

namespace CodeSurvey.Json

/-- Reads something in front of a text. -/
abbrev Reader (α : Type) := List Char → Except Problem (α × List Char)

/-- A problem with what was read. -/
def fail {α : Type} (cause : Cause) (rest : List Char) : Except Problem α :=
  .error { cause, rest }

/-- A problem with the next byte. -/
def failAt {α : Type} (cause : Cause) (rest : List Char) : Except Problem α :=
  .error { cause, rest, ahead := 1 }

/-! ## Blanks and words -/

def isBlank (c : Char) : Bool :=
  c == ' ' || c == '\n' || c == '\t' || c == '\r'

def skipBlanks (cs : List Char) : List Char :=
  cs.dropWhile isBlank

/-- Exactly the given characters. -/
def readWord : List Char → List Char → Except Problem (List Char)
  | [], cs => .ok cs
  | _ :: _, [] => fail (.ended .value) []
  | w :: ws, c :: cs =>
    if w = c then readWord ws cs else failAt .expectedIdent (c :: cs)

/-- The colon between a name and its value. -/
def readColon (cs : List Char) : Except Problem (List Char) :=
  match skipBlanks cs with
  | [] => fail (.ended .object) []
  | ':' :: cs => .ok cs
  | cs => failAt .expectedColon cs

/-! ## Strings -/

/-- The character that a one-letter escape stands for. -/
def escaped? : Char → Option Char
  | '"' => some '"'
  | '\\' => some '\\'
  | '/' => some '/'
  | 'b' => some '\x08'
  | 'f' => some '\x0c'
  | 'n' => some '\n'
  | 'r' => some '\r'
  | 't' => some '\t'
  | _ => none

/-- The value of four digits of base sixteen. -/
def hexValue? (a b c d : Char) : Option Nat := do
  let a ← Text.digit? 16 a
  let b ← Text.digit? 16 b
  let c ← Text.digit? 16 c
  let d ← Text.digit? 16 d
  return ((a * 16 + b) * 16 + c) * 16 + d

def isHighSurrogate (n : Nat) : Bool :=
  0xd800 ≤ n && n ≤ 0xdbff

def isLowSurrogate (n : Nat) : Bool :=
  0xdc00 ≤ n && n ≤ 0xdfff

/-- The character of a surrogate pair. -/
def pairedChar (high low : Nat) : Char :=
  Char.ofNat (0x10000 + (high - 0xd800) * 0x400 + (low - 0xdc00))

/-- The problem of a text that does not start with four digits. Four bytes are taken for them, and
with less than four the text has ended. -/
def failDigits {α : Type} (cs : List Char) : Except Problem α :=
  if (String.ofList cs).utf8ByteSize < 4 then fail (.ended .string) []
  else .error { cause := .invalidEscape, rest := cs, ahead := 4 }

/-- The problem of a text behind a high surrogate that does not start with a low one. -/
def failPair {α : Type} : List Char → Except Problem α
  | [] => fail (.ended .string) []
  | ['\\'] => fail (.ended .string) []
  | '\\' :: 'u' :: cs => failDigits cs
  | '\\' :: cs => failAt .unfinishedSurrogatePair cs
  | cs => failAt .unfinishedSurrogatePair cs

/-- Puts a character in front of what is read. -/
def prepend (c : Char) (r : Except Problem (List Char × List Char)) :
    Except Problem (List Char × List Char) :=
  r.map fun (s, rest) => (c :: s, rest)

/-- The rest of a string behind its opening mark. -/
def readStringBody : Reader (List Char)
  | [] => fail (.ended .string) []
  | '"' :: cs => .ok ([], cs)
  | '\\' :: 'u' :: a :: b :: c :: d :: cs =>
    match hexValue? a b c d with
    | none => failDigits (a :: b :: c :: d :: cs)
    | some n =>
      if isLowSurrogate n then fail .loneSurrogate cs
      else if isHighSurrogate n then
        match cs with
        | '\\' :: 'u' :: e :: f :: g :: h :: cs =>
          match hexValue? e f g h with
          | none => failDigits (e :: f :: g :: h :: cs)
          | some m =>
            if isLowSurrogate m then prepend (pairedChar n m) (readStringBody cs)
            else fail .loneSurrogate cs
        | cs => failPair cs
      else prepend (Char.ofNat n) (readStringBody cs)
  | '\\' :: 'u' :: cs => failDigits cs
  | '\\' :: c :: cs =>
    match escaped? c with
    | some e => prepend e (readStringBody cs)
    | none => failAt .invalidEscape (c :: cs)
  | ['\\'] => fail (.ended .string) []
  | c :: cs =>
    if c.toNat < 0x20 then failAt .controlCharacter (c :: cs) else prepend c (readStringBody cs)

/-- As `readStringBody` for a string that is passed over: escapes need not form characters, and a
control character is met as soon as what stands in front of it has been read. -/
def skipStringBody : List Char → Except Problem (List Char)
  | [] => fail (.ended .string) []
  | '"' :: cs => .ok cs
  | '\\' :: 'u' :: a :: b :: c :: d :: cs =>
    match hexValue? a b c d with
    | none => failDigits (a :: b :: c :: d :: cs)
    | some _ => skipStringBody cs
  | '\\' :: 'u' :: cs => failDigits cs
  | '\\' :: c :: cs =>
    match escaped? c with
    | some _ => skipStringBody cs
    | none => failAt .invalidEscape (c :: cs)
  | ['\\'] => fail (.ended .string) []
  | c :: cs => if c.toNat < 0x20 then fail .controlCharacter (c :: cs) else skipStringBody cs

end CodeSurvey.Json
