import CodeSurvey.Text.Hex

/-!
# Opcodes

Primary opcodes of one byte, or of two bytes after the escape `0f`. A two-byte opcode is the number
`0fxx`.

- `Opcode.ofByte`, `ofEscaped`, `bytes` : to and from the bytes of an instruction
- `biased`, `ofBiased?` : the numbering in which every opcode is moved up by `bias`
- `OpcodeMap` : a table over ranges of opcode bytes
- `mnemonic` : the name in a listing
-/

namespace CodeSurvey

structure Opcode where
  raw : UInt16
  deriving DecidableEq, Repr

/-! ## Tables over opcode bytes -/

/-- One entry for all opcode bytes from `first` to `last`. -/
structure OpcodeRow (α : Type) where
  first : Nat
  last : Nat
  entry : α

/-- A table over opcode bytes; the first row that covers a byte decides. -/
abbrev OpcodeMap (α : Type) := List (OpcodeRow α)

def OpcodeMap.find? {α : Type} (m : OpcodeMap α) (b : UInt8) : Option α :=
  (List.find? (fun r => r.first ≤ b.toNat && b.toNat ≤ r.last) m).map OpcodeRow.entry

namespace Opcode

/-! ## Bytes -/

/-- The byte in front of a two-byte opcode. -/
def escape : UInt8 := 0x0f

def ofByte (b : UInt8) : Opcode :=
  ⟨b.toUInt16⟩

/-- The two-byte opcode with this second byte. -/
def ofEscaped (b : UInt8) : Opcode :=
  ⟨0x0f00 ||| b.toUInt16⟩

def isTwoByte (op : Opcode) : Bool :=
  op.raw >>> 8 == 0x0f

/-- The last byte. -/
def low (op : Opcode) : UInt8 :=
  op.raw.toUInt8

/-- The bytes in an instruction. -/
def bytes (op : Opcode) : List UInt8 :=
  if op.isTwoByte then [escape, op.low] else [op.low]

/-! ## Opcodes that matter by themselves -/

def movRmReg : Opcode := ⟨0x89⟩
def lea : Opcode := ⟨0x8d⟩
def nop : Opcode := ⟨0x90⟩
def ret : Opcode := ⟨0xc3⟩
def retImm : Opcode := ⟨0xc2⟩
def int3 : Opcode := ⟨0xcc⟩
def callRel32 : Opcode := ⟨0xe8⟩
def jmpRel32 : Opcode := ⟨0xe9⟩
def jmpRel8 : Opcode := ⟨0xeb⟩

/-- Indirect calls and jumps, told apart by the ModRM byte. -/
def group5 : Opcode := ⟨0xff⟩

/-- Hint no-ops; with a repeat prefix the landing pads. -/
def hintNop : Opcode := ⟨0x0f1e⟩

def nopRm : Opcode := ⟨0x0f1f⟩

/-- Jumps on a condition, with an offset of one or of four bytes. -/
def isConditionalJump (op : Opcode) : Bool :=
  (0x70 ≤ op.raw && op.raw ≤ 0x7f) || (0x0f80 ≤ op.raw && op.raw ≤ 0x0f8f)

/-! ## Biased numbering -/

def bias : Nat := 0x80

def biased (op : Opcode) : Nat :=
  op.raw.toNat + bias

/-- The opcode of a biased number, if it is the number of a one-byte or a two-byte opcode. -/
def ofBiased? (n : Nat) : Option Opcode :=
  if n < bias then none
  else
    let raw := n - bias
    if raw / 256 = 0 ∨ raw / 256 = 0x0f then some ⟨UInt16.ofNat raw⟩ else none

/-! ## Text -/

def text (op : Opcode) : String :=
  Text.hexBytes " " op.bytes

/-- How an opcode is named: by itself, or by the ModRM field `reg`. -/
inductive Naming
  | always (name : String)
  | byReg (names : List String)

def unnamed : String := "(bad)"

def Naming.pick (reg : Nat) : Naming → String
  | .always name => name
  | .byReg names => names.getD (reg % 8) unnamed

def arithmeticNames : List String :=
  ["add", "or", "adc", "sbb", "and", "sub", "xor", "cmp"]

def shiftNames : List String :=
  ["rol", "ror", "rcl", "rcr", "shl", "shr", "sal", "sar"]

def oneByteNames : OpcodeMap Naming :=
  [⟨0x50, 0x57, .always "push"⟩, ⟨0x58, 0x5f, .always "pop"⟩, ⟨0x63, 0x63, .always "movsxd"⟩,
   ⟨0x68, 0x68, .always "push"⟩, ⟨0x69, 0x69, .always "imul"⟩, ⟨0x6a, 0x6a, .always "push"⟩,
   ⟨0x6b, 0x6b, .always "imul"⟩, ⟨0x70, 0x7f, .always "jcc"⟩,
   ⟨0x80, 0x81, .byReg arithmeticNames⟩, ⟨0x83, 0x83, .byReg arithmeticNames⟩,
   ⟨0x84, 0x85, .always "test"⟩, ⟨0x86, 0x87, .always "xchg"⟩, ⟨0x88, 0x8b, .always "mov"⟩,
   ⟨0x8d, 0x8d, .always "lea"⟩, ⟨0x8f, 0x8f, .always "pop"⟩, ⟨0x90, 0x90, .always "nop"⟩,
   ⟨0x91, 0x97, .always "xchg"⟩, ⟨0x98, 0x98, .always "cdqe"⟩, ⟨0x99, 0x99, .always "cqo"⟩,
   ⟨0xa8, 0xa9, .always "test"⟩, ⟨0xb0, 0xbf, .always "mov"⟩, ⟨0xc0, 0xc1, .byReg shiftNames⟩,
   ⟨0xc2, 0xc3, .always "ret"⟩, ⟨0xc6, 0xc7, .always "mov"⟩, ⟨0xc9, 0xc9, .always "leave"⟩,
   ⟨0xcc, 0xcc, .always "int3"⟩, ⟨0xd0, 0xd3, .byReg shiftNames⟩, ⟨0xe8, 0xe8, .always "call"⟩,
   ⟨0xe9, 0xe9, .always "jmp"⟩, ⟨0xeb, 0xeb, .always "jmp"⟩, ⟨0xf4, 0xf4, .always "hlt"⟩,
   ⟨0xf6, 0xf7, .byReg ["test", "test", "not", "neg", "mul", "imul", "div", "idiv"]⟩,
   ⟨0xfe, 0xfe, .byReg ["inc", "dec"]⟩,
   ⟨0xff, 0xff, .byReg ["inc", "dec", "call", "call far", "jmp", "jmp far", "push"]⟩]

def twoByteNames : OpcodeMap Naming :=
  [⟨0x05, 0x05, .always "syscall"⟩, ⟨0x0b, 0x0b, .always "ud2"⟩, ⟨0x1e, 0x1f, .always "nop"⟩,
   ⟨0x40, 0x4f, .always "cmovcc"⟩, ⟨0x80, 0x8f, .always "jcc"⟩, ⟨0x90, 0x9f, .always "setcc"⟩,
   ⟨0xa2, 0xa2, .always "cpuid"⟩, ⟨0xaf, 0xaf, .always "imul"⟩, ⟨0xb6, 0xb7, .always "movzx"⟩,
   ⟨0xbe, 0xbf, .always "movsx"⟩]

/-- The low third of the one-byte map repeats one arithmetic operation every eight bytes, with
operands in six of them. -/
def isArithmeticByte (b : UInt8) : Bool :=
  b.toNat ≤ 0x3d && b.toNat % 8 ≤ 5

def naming (op : Opcode) : Naming :=
  if op.isTwoByte then (twoByteNames.find? op.low).getD (.always unnamed)
  else if isArithmeticByte op.low then .always (arithmeticNames.getD (op.low.toNat / 8) unnamed)
  else (oneByteNames.find? op.low).getD (.always unnamed)

/-- The name in a listing; `reg` is the ModRM field for opcodes that are named by it. -/
def mnemonic (op : Opcode) (reg : Nat) : String :=
  op.naming.pick reg

end Opcode

end CodeSurvey
