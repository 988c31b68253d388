/-!
# Instruction prefixes

The legacy prefix bytes, the REX byte, and the set of prefixes in front of an opcode.

- `Prefix.ofByte?` : which prefix a byte is
- `PrefixSet.ofBytes` : the prefixes of a list of bytes, in any order and number
- `PrefixSet.bits` : one bit per prefix
-/

namespace CodeSurvey

inductive Prefix
  | lock
  | segment
  | operandSize
  | addressSize
  | rep
  | repne
  deriving DecidableEq, Repr

/-- The legacy prefix of a byte. -/
def Prefix.ofByte? (b : UInt8) : Option Prefix :=
  match b.toNat with
  | 0xf0 => some .lock
  | 0x26 | 0x2e | 0x36 | 0x3e | 0x64 | 0x65 => some .segment
  | 0x66 => some .operandSize
  | 0x67 => some .addressSize
  | 0xf3 => some .rep
  | 0xf2 => some .repne
  | _ => none

def Prefix.isByte (b : UInt8) : Bool :=
  (Prefix.ofByte? b).isSome

/-- The bytes `40` to `4f`. -/
def isRexByte (b : UInt8) : Bool :=
  b.toNat / 16 == 4

/-- Which prefixes stand in front of an opcode. -/
structure PrefixSet where
  lock : Bool := false
  segment : Bool := false
  operandSize : Bool := false
  addressSize : Bool := false
  rep : Bool := false
  rex : Bool := false
  repne : Bool := false
  deriving DecidableEq, Repr

namespace PrefixSet

def insert (s : PrefixSet) : Prefix → PrefixSet
  | .lock => { s with lock := true }
  | .segment => { s with segment := true }
  | .operandSize => { s with operandSize := true }
  | .addressSize => { s with addressSize := true }
  | .rep => { s with rep := true }
  | .repne => { s with repne := true }

/-- The legacy prefixes of some bytes; other bytes add nothing. -/
def ofBytes (bs : List UInt8) : PrefixSet :=
  (bs.filterMap Prefix.ofByte?).foldl insert {}

def bits (s : PrefixSet) : Nat :=
  s.lock.toNat + 2 * s.segment.toNat + 4 * s.operandSize.toNat + 8 * s.addressSize.toNat
    + 16 * s.rep.toNat + 32 * s.rex.toNat + 64 * s.repne.toNat

end PrefixSet

end CodeSurvey
