import CodeSurvey.Sweep.Basic
import CodeSurvey.Text.Lowercase

/-!
# Function starts

Two signs of a function start: a landing pad marker among the bytes, wherever instructions begin,
and the first instruction behind a run of filler.

- `PrologueMode.parse` : the names a user gives the two
- `Code.findMarker?` : the first marker at an admitted address
- `Code.findAfterPadding?` : the first admitted position of a sweep that follows filler and is not
  filler itself; bytes that cannot be decoded count as such a position
-/

namespace CodeSurvey

/-- How function starts are recognised. -/
inductive PrologueMode
  | landingPad
  | padding
  deriving DecidableEq, Repr

namespace PrologueMode

def text : PrologueMode → String
  | .landingPad => "endbr64"
  | .padding => "padding"

/-- A name, in lower case, that no mode has. -/
structure UnknownName where
  name : String
  deriving DecidableEq, Repr

def UnknownName.message (e : UnknownName) : String :=
  "unknown prologue mode '" ++ e.name ++ "'"

/-- The mode of a name in letters of any case. -/
def parse (s : String) : Except UnknownName PrologueMode :=
  let name := Text.lowercase s
  if name ∈ ["endbr", "endbr64", "landing-pad", "landing_pad"] then .ok .landingPad
  else if name ∈ ["nop", "padding"] then .ok .padding
  else .error ⟨name⟩

end PrologueMode

/-- The bytes of `endbr64`. -/
def landingPadBytes : List UInt8 :=
  [0xf3, 0x0f, 0x1e, 0xfa]

namespace Sweep

/-- The first marker at an admitted address, in the bytes that start at an address. -/
def findMarker? (admits : Address → Bool) : Address → List UInt8 → Option Address
  | _, [] => none
  | a, b :: bs =>
    if landingPadBytes.isPrefixOf (b :: bs) && admits a then some a
    else findMarker? admits (a + 1) bs

/-- The first start behind filler. The flag says whether filler came last. -/
def findAfterPadding? (p : Resync) (admits : Address → Bool) (afterFiller : Bool) (a : Address) :
    (skip : Nat) → List UInt8 → Option Address
  | _, [] => none
  | skip + 1, _ :: bs => findAfterPadding? p admits afterFiller (a + 1) skip bs
  | 0, b :: bs =>
    match Insn.decodeBytes a (b :: bs) with
    | .ok i =>
      if i.kind.isPadding then findAfterPadding? p admits true (a + 1) (i.length - 1) bs
      else if afterFiller && admits a then some a
      else findAfterPadding? p admits false (a + 1) (i.length - 1) bs
    | .error _ =>
      if afterFiller && admits a then some a
      else
        match p with
        | .stop => none
        | .byteWise => findAfterPadding? p admits false (a + 1) 0 bs

end Sweep

namespace Code

def findMarker? (c : Code) (o : ScanOptions) : Option Address :=
  Sweep.findMarker? o.admits c.start c.bytes

def findAfterPadding? (c : Code) (o : ScanOptions) : Option Address :=
  Sweep.findAfterPadding? o.resync o.admits false c.start 0 c.bytes

/-- The first function start of the code. -/
def findPrologue? (c : Code) (o : ScanOptions) : PrologueMode → Option Address
  | .landingPad => c.findMarker? o
  | .padding => c.findAfterPadding? o

end Code

end CodeSurvey
