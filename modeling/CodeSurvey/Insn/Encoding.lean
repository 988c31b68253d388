import CodeSurvey.Bytes
import CodeSurvey.Insn.ModRM
import CodeSurvey.Insn.Prefix
import CodeSurvey.Insn.Shape

/-!
# Instruction encodings

The bytes of one instruction, cut into its fields: legacy prefixes, REX, opcode, ModRM, SIB,
displacement and operand, in this order.

- `Encoding.toBytes` : the fields put together
- `Encoding.WellFormed` : each field is there exactly when, and as wide as, the others ask for
- `Encoding.read` : cuts the first instruction off a list of bytes
-/

namespace CodeSurvey

structure Encoding where
  legacy : List UInt8
  rex : Option UInt8
  opcode : Opcode
  modrm : Option ModRM
  sib : Option UInt8
  displacement : List UInt8
  operand : List UInt8
  deriving DecidableEq, Repr

namespace Encoding

/-! ## Fields -/

def toBytes (e : Encoding) : List UInt8 :=
  e.legacy ++ e.rex.toList ++ e.opcode.bytes ++ e.modrm.toList.map ModRM.raw ++ e.sib.toList
    ++ e.displacement ++ e.operand

/-- The legacy prefixes, and whether there is a REX byte. -/
def prefixes (e : Encoding) : PrefixSet :=
  { PrefixSet.ofBytes e.legacy with rex := e.rex.isSome }

/-- Bit 3 of the REX byte: 64-bit operands. -/
def rexW (rex : Option UInt8) : Bool :=
  rex.any fun b => b.toNat.testBit 3

/-- Bit 0 of the REX byte: the upper eight registers in field `rm` or in the opcode. -/
def rexB (rex : Option UInt8) : Bool :=
  rex.any fun b => b.toNat.testBit 0

/-- The ModRM field `reg`, zero without a ModRM byte. -/
def regField (modrm : Option ModRM) : Nat :=
  (modrm.map ModRM.reg).getD 0

/-- Displacement bytes that a ModRM byte and a SIB byte ask for. -/
def displacementWidth (modrm : Option ModRM) (sib : Option UInt8) : Nat :=
  (modrm.map fun m => m.displacementWidth sib).getD 0

/-- Operand bytes that the other fields ask for. -/
def operandWidth (legacy : List UInt8) (rex : Option UInt8) (modrm : Option ModRM)
    (shape : Shape) : Nat :=
  shape.operand.width (PrefixSet.ofBytes legacy).operandSize (rexW rex) (regField modrm)

/-- Each field is present exactly when, and as wide as, the other fields ask for. -/
structure WellFormed (e : Encoding) (shape : Shape) : Prop where
  legacy_isByte : ∀ b ∈ e.legacy, Prefix.isByte b = true
  rex_isRexByte : ∀ b ∈ e.rex, isRexByte b = true
  opcode_isByte : e.opcode = .ofByte e.opcode.low ∨ e.opcode = .ofEscaped e.opcode.low
  shape_eq : e.opcode.shape? = some shape
  modrm_isSome : e.modrm.isSome = shape.hasModRM
  sib_isSome : e.sib.isSome = e.modrm.any ModRM.needsSib
  displacement_length : e.displacement.length = displacementWidth e.modrm e.sib
  operand_length : e.operand.length = operandWidth e.legacy e.rex e.modrm shape

/-! ## Reading -/

/-- Why no instruction can be cut off. -/
inductive Fault
  | ranOut
  | unsupported (op : Opcode)
  deriving DecidableEq, Repr

/-- The REX byte in front, if there is one. There has to be a byte. -/
def readRex : List UInt8 → Except Fault (Option UInt8 × List UInt8)
  | [] => .error .ranOut
  | b :: bs => if isRexByte b then .ok (some b, bs) else .ok (none, b :: bs)

/-- The opcode in front, of two bytes after the escape. -/
def readOpcode : List UInt8 → Except Fault (Opcode × List UInt8)
  | [] => .error .ranOut
  | b :: bs =>
    if b = Opcode.escape then
      match bs with
      | [] => .error .ranOut
      | c :: cs => .ok (.ofEscaped c, cs)
    else .ok (.ofByte b, bs)

/-- One byte, if it is wanted. -/
def readByteIf (wanted : Bool) (bs : List UInt8) : Except Fault (Option UInt8 × List UInt8) :=
  if wanted then
    match bs with
    | [] => .error .ranOut
    | b :: bs => .ok (some b, bs)
  else .ok (none, bs)

/-- Exactly `n` bytes. -/
def readBytes (n : Nat) (bs : List UInt8) : Except Fault (List UInt8 × List UInt8) :=
  match Bytes.split? n bs with
  | some r => .ok r
  | none => .error .ranOut

/-- Cuts the first instruction off. An opcode without a shape is noticed before the fields behind
it are asked for. -/
def read (bs : List UInt8) : Except Fault (Encoding × List UInt8) := do
  let legacy := bs.takeWhile Prefix.isByte
  let (rex, bs) ← readRex (bs.dropWhile Prefix.isByte)
  let (opcode, bs) ← readOpcode bs
  match opcode.shape? with
  | none => .error (.unsupported opcode)
  | some shape =>
    let (modrm, bs) ← readByteIf shape.hasModRM bs
    let modrm := modrm.map ModRM.mk
    let (sib, bs) ← readByteIf (modrm.any ModRM.needsSib) bs
    let (displacement, bs) ← readBytes (displacementWidth modrm sib) bs
    let (operand, bs) ← readBytes (operandWidth legacy rex modrm shape) bs
    return (⟨legacy, rex, opcode, modrm, sib, displacement, operand⟩, bs)

end Encoding

end CodeSurvey
