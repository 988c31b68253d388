import CodeSurvey.Text.Blank
import CodeSurvey.Text.Numeral

/-!
# Memory protection

The three permissions of a loaded segment, as the flag word of a program header (execute 1, write 2,
read 4), as text (`r-x`), and read back from either.

- `Protection.ofBits`, `bits` : the flag word; other bits are dropped
- `text`, `parse` : letters, or a number of base ten or sixteen
-/

namespace CodeSurvey

structure Protection where
  read : Bool := false
  write : Bool := false
  execute : Bool := false
  deriving DecidableEq, Repr

/-- Why a text is no protection. -/
inductive ProtectionError
  | malformedFlags (text : String) (cause : Text.NumeralError)
  | unknownLetter (c : Char)
  deriving DecidableEq, Repr

def ProtectionError.message : ProtectionError → String
  | .malformedFlags text cause => "invalid protection flags '" ++ text ++ "': " ++ cause.message
  | .unknownLetter c => "invalid protection character '" ++ c.toString ++ "'"

namespace Protection

def none : Protection := {}

/-! ## Flag word -/

/-- The permissions of a flag word; its other bits mean nothing here. -/
def ofBits (n : Nat) : Protection where
  execute := n.testBit 0
  write := n.testBit 1
  read := n.testBit 2

def bits (p : Protection) : Nat :=
  p.execute.toNat + 2 * p.write.toNat + 4 * p.read.toNat

theorem ofBits_bits (p : Protection) : ofBits p.bits = p := by
  rcases p with ⟨_ | _, _ | _, _ | _⟩ <;> rfl

/-- Every permission of `q` is one of `p`. -/
def includes (p q : Protection) : Bool :=
  (!q.read || p.read) && (!q.write || p.write) && (!q.execute || p.execute)

/-! ## Text -/

/-- Three places for read, write and execute, with a dash where the permission is missing. -/
def text (p : Protection) : String :=
  String.ofList [if p.read then 'r' else '-', if p.write then 'w' else '-',
    if p.execute then 'x' else '-']

/-- Adds the permission of one letter, in either case; a dash adds nothing. -/
def addLetter (p : Protection) (c : Char) : Except ProtectionError Protection :=
  match c.toLower with
  | 'r' => .ok { p with read := true }
  | 'w' => .ok { p with write := true }
  | 'x' => .ok { p with execute := true }
  | '-' => .ok p
  | other => .error (.unknownLetter other)

/-- The permissions that occur in a text of letters and dashes. -/
def readLetters (cs : List Char) : Except ProtectionError Protection :=
  cs.foldlM addLetter none

/-- Reads a protection from letters and dashes in any order and number, or from a flag word below
`2 ^ 32`, decimal or behind `0x`. -/
def parse (s : String) : Except ProtectionError Protection :=
  let cs := Text.trim s.toList
  match cs with
  | '0' :: 'x' :: ds =>
    match Text.readNumeral 16 (1 <<< 32) ds with
    | .ok n => .ok (ofBits n)
    | .error e => .error (.malformedFlags (String.ofList cs) e)
  | _ =>
    match Text.readNumeral 10 (1 <<< 32) cs with
    | .ok n => .ok (ofBits n)
    | .error _ => readLetters cs

end Protection

end CodeSurvey
