/-!
# The ModRM byte

Its three fields, and what they say about the bytes that follow.

- `mode`, `reg`, `rm` : the fields
- `needsSib`, `isRipRelative` : the two escapes of the `rm` field
- `displacementWidth` : the number of displacement bytes
-/

namespace CodeSurvey

/-- The upper two bits of a ModRM byte. -/
inductive AddressingMode
  | indirect
  | indirectDisp8
  | indirectDisp32
  | register
  deriving DecidableEq, Repr

namespace AddressingMode

def ofBits (n : Nat) : AddressingMode :=
  match n % 4 with
  | 0 => .indirect
  | 1 => .indirectDisp8
  | 2 => .indirectDisp32
  | _ => .register

def bits : AddressingMode → Nat
  | .indirect => 0
  | .indirectDisp8 => 1
  | .indirectDisp32 => 2
  | .register => 3

/-- The mode itself asks for displacement bytes. -/
def hasDisplacement : AddressingMode → Bool
  | .indirectDisp8 | .indirectDisp32 => true
  | .indirect | .register => false

def name : AddressingMode → String
  | .indirect => "Indirect"
  | .indirectDisp8 => "IndirectDisp8"
  | .indirectDisp32 => "IndirectDisp32"
  | .register => "Register"

end AddressingMode

structure ModRM where
  raw : UInt8
  deriving DecidableEq, Repr

namespace ModRM

def mode (m : ModRM) : AddressingMode :=
  .ofBits (m.raw.toNat / 64)

def reg (m : ModRM) : Nat :=
  m.raw.toNat / 8 % 8

def rm (m : ModRM) : Nat :=
  m.raw.toNat % 8

/-- A SIB byte follows. -/
def needsSib (m : ModRM) : Bool :=
  m.mode != .register && m.rm == 4

/-- The operand lies at a distance from the end of the instruction. -/
def isRipRelative (m : ModRM) : Bool :=
  m.mode == .indirect && m.rm == 5

/-- The number of displacement bytes: as the mode says, and four where the base register is left
out, which field `rm` or the SIB byte can say. -/
def displacementWidth (m : ModRM) (sib : Option UInt8) : Nat :=
  match m.mode with
  | .indirectDisp8 => 1
  | .indirectDisp32 => 4
  | .indirect => if m.isRipRelative || sib.any (fun s => s.toNat % 8 == 5) then 4 else 0
  | .register => 0

end ModRM

end CodeSurvey
