import CodeSurvey.Insn.Opcode

/-!
# Opcode shapes

What follows an opcode: whether a ModRM byte does, and what operand comes last. Only opcodes with a
shape can be decoded.

- `OperandKind.width` : the number of operand bytes, from the prefixes and the ModRM field `reg`
- `Opcode.shape?` : the table
-/

namespace CodeSurvey

/-- The immediate or relative operand behind all other fields. -/
inductive OperandKind
  | empty
  | imm8
  | imm16
  /-- Two bytes under an operand-size prefix, else four. -/
  | immZ
  /-- Eight bytes under REX.W, else as `immZ`. -/
  | immV
  | rel8
  | rel32
  /-- Only `reg` 0 and 1 have an immediate: one byte, or as `immZ` when wide. -/
  | testGroup (wide : Bool)
  deriving DecidableEq, Repr

/-- The number of operand bytes. -/
def OperandKind.width (operandSize rexW : Bool) (reg : Nat) : OperandKind → Nat
  | .empty => 0
  | .imm8 | .rel8 => 1
  | .imm16 => 2
  | .rel32 => 4
  | .immZ => if operandSize then 2 else 4
  | .immV => if rexW then 8 else if operandSize then 2 else 4
  | .testGroup wide =>
    if 1 < reg then 0 else if wide then if operandSize then 2 else 4 else 1

/-- How an instruction continues after its opcode. -/
structure Shape where
  hasModRM : Bool
  operand : OperandKind
  deriving DecidableEq, Repr

namespace Opcode

def oneByteShapes : OpcodeMap Shape :=
  [⟨0x50, 0x5f, ⟨false, .empty⟩⟩, ⟨0x63, 0x63, ⟨true, .empty⟩⟩, ⟨0x68, 0x68, ⟨false, .immZ⟩⟩,
   ⟨0x69, 0x69, ⟨true, .immZ⟩⟩, ⟨0x6a, 0x6a, ⟨false, .imm8⟩⟩, ⟨0x6b, 0x6b, ⟨true, .imm8⟩⟩,
   ⟨0x70, 0x7f, ⟨false, .rel8⟩⟩, ⟨0x80, 0x80, ⟨true, .imm8⟩⟩, ⟨0x81, 0x81, ⟨true, .immZ⟩⟩,
   ⟨0x83, 0x83, ⟨true, .imm8⟩⟩, ⟨0x84, 0x8b, ⟨true, .empty⟩⟩, ⟨0x8d, 0x8d, ⟨true, .empty⟩⟩,
   ⟨0x8f, 0x8f, ⟨true, .empty⟩⟩, ⟨0x90, 0x99, ⟨false, .empty⟩⟩, ⟨0xa8, 0xa8, ⟨false, .imm8⟩⟩,
   ⟨0xa9, 0xa9, ⟨false, .immZ⟩⟩, ⟨0xb0, 0xb7, ⟨false, .imm8⟩⟩, ⟨0xb8, 0xbf, ⟨false, .immV⟩⟩,
   ⟨0xc0, 0xc1, ⟨true, .imm8⟩⟩, ⟨0xc2, 0xc2, ⟨false, .imm16⟩⟩, ⟨0xc3, 0xc3, ⟨false, .empty⟩⟩,
   ⟨0xc6, 0xc6, ⟨true, .imm8⟩⟩, ⟨0xc7, 0xc7, ⟨true, .immZ⟩⟩, ⟨0xc9, 0xc9, ⟨false, .empty⟩⟩,
   ⟨0xcc, 0xcc, ⟨false, .empty⟩⟩, ⟨0xd0, 0xd3, ⟨true, .empty⟩⟩, ⟨0xe8, 0xe9, ⟨false, .rel32⟩⟩,
   ⟨0xeb, 0xeb, ⟨false, .rel8⟩⟩, ⟨0xf4, 0xf4, ⟨false, .empty⟩⟩,
   ⟨0xf6, 0xf6, ⟨true, .testGroup false⟩⟩, ⟨0xf7, 0xf7, ⟨true, .testGroup true⟩⟩,
   ⟨0xfe, 0xff, ⟨true, .empty⟩⟩]

def twoByteShapes : OpcodeMap Shape :=
  [⟨0x05, 0x05, ⟨false, .empty⟩⟩, ⟨0x0b, 0x0b, ⟨false, .empty⟩⟩, ⟨0x1e, 0x1f, ⟨true, .empty⟩⟩,
   ⟨0x40, 0x4f, ⟨true, .empty⟩⟩, ⟨0x80, 0x8f, ⟨false, .rel32⟩⟩, ⟨0x90, 0x9f, ⟨true, .empty⟩⟩,
   ⟨0xa2, 0xa2, ⟨false, .empty⟩⟩, ⟨0xaf, 0xaf, ⟨true, .empty⟩⟩, ⟨0xb6, 0xb7, ⟨true, .empty⟩⟩,
   ⟨0xbe, 0xbf, ⟨true, .empty⟩⟩]

/-- The arithmetic operations: four forms with a ModRM byte, one with a byte and one with a full
immediate. -/
def arithmeticShape (b : UInt8) : Shape :=
  if b.toNat % 8 ≤ 3 then ⟨true, .empty⟩
  else if b.toNat % 8 = 4 then ⟨false, .imm8⟩
  else ⟨false, .immZ⟩

/-- The shape of every opcode that can be decoded. -/
def shape? (op : Opcode) : Option Shape :=
  if op.isTwoByte then twoByteShapes.find? op.low
  else if isArithmeticByte op.low then some (arithmeticShape op.low)
  else oneByteShapes.find? op.low

end Opcode

end CodeSurvey
