import CodeSurvey.Insn.Basic

/-!
# Kinds of instructions

The coarse grouping that searches use, and the destinations of calls and branches.

- `Insn.kind` : the group
- `Insn.callTarget?`, `Insn.branchTarget?` : destinations that need no look at memory
-/

namespace CodeSurvey

inductive InsnKind
  | nearCall
  | indirectCall
  | jump
  | conditionalJump
  | lea
  | landingPad
  | nop
  | int3
  | ret
  | other
  deriving DecidableEq, Repr

namespace InsnKind

def isCall : InsnKind → Bool
  | .nearCall | .indirectCall => true
  | _ => false

/-- Filler between functions. -/
def isPadding : InsnKind → Bool
  | .nop | .int3 => true
  | _ => false

def label : InsnKind → String
  | .nearCall => "call"
  | .indirectCall => "call-indirect"
  | .jump => "jump"
  | .conditionalJump => "jcc"
  | .lea => "lea"
  | .landingPad => "endbr64"
  | .nop => "nop"
  | .int3 => "int3"
  | .ret => "ret"
  | .other => "other"

end InsnKind

namespace Insn

/-! ## Grouping -/

/-- Under a repeat prefix a hint no-op is a landing pad or something else, and never filler. -/
def hintKind (i : Insn) : InsnKind :=
  if !i.prefixes.rep then .nop
  else if i.modrm.any fun m => m.raw == 0xfa || m.raw == 0xfb then .landingPad
  else .other

def group5Kind (i : Insn) : InsnKind :=
  match i.reg? with
  | some 2 | some 3 => .indirectCall
  | some 4 | some 5 => .jump
  | _ => .other

def kind (i : Insn) : InsnKind :=
  if i.opcode = .callRel32 then .nearCall
  else if i.opcode = .jmpRel32 ∨ i.opcode = .jmpRel8 then .jump
  else if i.opcode.isConditionalJump then .conditionalJump
  else if i.opcode = .lea then .lea
  else if i.opcode = .hintNop then i.hintKind
  else if i.opcode = .nopRm then .nop
  -- with REX.B the same byte exchanges two registers
  else if i.opcode = .nop then if i.rexB then .other else .nop
  else if i.opcode = .int3 then .int3
  else if i.opcode = .ret ∨ i.opcode = .retImm then .ret
  else if i.opcode = .group5 then i.group5Kind
  else .other

/-! ## Destinations -/

/-- Where an offset from the end of the instruction leads. -/
def relativeTarget (i : Insn) : Address :=
  i.stop.offset i.operand

/-- Destination of a relative call, or the slot that an indirect call reads it from. -/
def callTarget? (i : Insn) : Option Address :=
  match i.kind with
  | .nearCall => some i.relativeTarget
  | .indirectCall => if i.modrm.any ModRM.isRipRelative then some (.ofInt i.operand) else none
  | _ => none

/-- Destination of a relative call or jump. -/
def branchTarget? (i : Insn) : Option Address :=
  match i.kind with
  | .nearCall | .conditionalJump => some i.relativeTarget
  | .jump => if i.opcode = .group5 then none else some i.relativeTarget
  | _ => none

end Insn

end CodeSurvey
