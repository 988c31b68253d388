import CodeSurvey.Address.Basic
import CodeSurvey.Code
import CodeSurvey.Insn.Encoding

/-!
# Decoded instructions

An instruction at an address: its length, its fields, and its displacement and operand as signed
numbers.

- `Insn.ofEncoding` : the instruction that an encoding is at an address
- `Insn.blank` : the all-zero record, which no decoding gives
- `Insn.stop` : the address behind the instruction
-/

namespace CodeSurvey

structure Insn where
  start : Address
  length : Nat
  prefixes : PrefixSet
  rex : Option UInt8
  modrm : Option ModRM
  sib : Option UInt8
  opcode : Opcode
  /-- Distance from the base register, or from the end of the instruction. -/
  displacement : Int
  /-- Immediate or relative offset; for a call through a slot at a known address, that address. -/
  operand : Int
  deriving DecidableEq, Repr

namespace Insn

/-- The record of no instruction. -/
def blank : Insn where
  start := .zero
  length := 0
  prefixes := {}
  rex := none
  modrm := none
  sib := none
  opcode := ⟨0⟩
  displacement := 0
  operand := 0

instance : Inhabited Insn := ⟨blank⟩

def isValid (i : Insn) : Bool :=
  0 < i.length

/-- The address behind the last byte. -/
def stop (i : Insn) : Address :=
  i.start + i.length

def rexW (i : Insn) : Bool :=
  Encoding.rexW i.rex

def rexB (i : Insn) : Bool :=
  Encoding.rexB i.rex

def mode? (i : Insn) : Option AddressingMode :=
  i.modrm.map ModRM.mode

def reg? (i : Insn) : Option Nat :=
  i.modrm.map ModRM.reg

/-- The bytes in a piece of code that holds the whole instruction. -/
def bytesIn? (i : Insn) (c : Code) : Option (List UInt8) :=
  match c.bytesFrom? i.start with
  | some bs => if i.length ≤ bs.length then some (bs.take i.length) else none
  | none => none

/-! ## From an encoding -/

/-- A call through a slot whose address follows from the instruction alone. -/
def isSlotCall (opcode : Opcode) (modrm : Option ModRM) : Bool :=
  opcode == .group5 && modrm.any fun m => (m.reg == 2 || m.reg == 3) && m.isRipRelative

/-- The instruction that an encoding is at an address. -/
def ofEncoding (at_ : Address) (e : Encoding) : Insn :=
  let length := e.toBytes.length
  let displacement := Bytes.signed e.displacement
  let operand :=
    if isSlotCall e.opcode e.modrm then
      Int.bmod ((at_ + length).offset displacement).toNat (1 <<< 64)
    else Bytes.signed e.operand
  { start := at_
    length
    prefixes := e.prefixes
    rex := e.rex
    modrm := e.modrm
    sib := e.sib
    opcode := e.opcode
    displacement
    operand }

end Insn

end CodeSurvey
