import CodeSurvey.Insn.Kind

/-!
# Instruction text

- `Insn.mnemonic` : the name; landing pads have names of their own
- `Insn.text` : address, name, opcode, and the destination or else the displacement
-/

namespace CodeSurvey.Insn

def mnemonic (i : Insn) : String :=
  if i.kind = .landingPad then
    if i.modrm.any fun m => m.raw == 0xfb then "endbr32" else "endbr64"
  else i.opcode.mnemonic (i.reg?.getD 0)

/-- A signed number as the digits of its 64-bit two's complement. -/
def wordHex (n : Int) : String :=
  Text.hexMarked (n % (1 <<< 64 : Nat)).toNat

/-- What a line of text adds behind the opcode. -/
def detail (i : Insn) : String :=
  match i.branchTarget?.or i.callTarget? with
  | some target => " -> " ++ target.text
  | none =>
    if i.mode?.any AddressingMode.hasDisplacement || i.displacement != 0 then
      " disp " ++ wordHex i.displacement
    else ""

def text (i : Insn) : String :=
  i.start.text ++ " " ++ Text.padRight 8 i.mnemonic ++ " [" ++ i.opcode.text ++ "]" ++ i.detail

end CodeSurvey.Insn
