import CodeSurvey.Insn.Basic

/-!
# Decoding

The instruction at an address of a piece of code. At most `maxLength` bytes are looked at, and none
outside the code.

- `Insn.decodeBytes` : from the bytes at an address
- `Code.decode` : from an address in a piece of code
- `DecodeError` : what went wrong, with the address asked for
-/

namespace CodeSurvey

inductive DecodeError
  | empty (at_ : Address)
  | outOfBounds (at_ : Address)
  | truncated (at_ : Address) (consumed : Nat)
  | unsupportedOpcode (at_ : Address) (opcode : Opcode)
  | tooLong (at_ : Address)
  deriving DecidableEq, Repr

namespace DecodeError

/-- The address of the instruction that cannot be decoded. -/
def address : DecodeError → Address
  | .empty a | .outOfBounds a | .truncated a _ | .unsupportedOpcode a _ | .tooLong a => a

def message (e : DecodeError) : String :=
  let place := Text.hexMarked e.address.toNat
  match e with
  | .empty _ => "Nothing to decode at " ++ place
  | .outOfBounds _ => "Address " ++ place ++ " is outside the code buffer"
  | .truncated _ consumed =>
    "Instruction at " ++ place ++ " runs past the end of the buffer after " ++ toString consumed
      ++ " bytes"
  | .unsupportedOpcode _ opcode =>
    "Unsupported opcode " ++ Text.hexMarked opcode.raw.toNat ++ " at " ++ place
  | .tooLong _ => "Instruction at " ++ place ++ " exceeds the 15 byte limit"

end DecodeError

/-- No instruction is longer. -/
def Insn.maxLength : Nat := 15

/-- Decodes the bytes that start at an address. Where they run out, the limit is to blame if they
reach it, and their end otherwise. -/
def Insn.decodeBytes (at_ : Address) (bs : List UInt8) : Except DecodeError Insn :=
  let front := bs.take maxLength
  match Encoding.read front with
  | .ok (e, _) => .ok (ofEncoding at_ e)
  | .error (.unsupported op) => .error (.unsupportedOpcode at_ op)
  | .error .ranOut =>
    if front.length = maxLength then .error (.tooLong at_)
    else .error (.truncated at_ front.length)

namespace Code

/-- The instruction at an address of the code. -/
def decode (c : Code) (at_ : Address) : Except DecodeError Insn :=
  if c.isEmpty || c.stop ≤ at_ then .error (.empty at_)
  else
    match c.bytesFrom? at_ with
    | some bs => Insn.decodeBytes at_ bs
    | none => .error (.outOfBounds at_)

/-- Decodes into a record that held something else before; after a failure it is blank. -/
def decodeInto (_record : Insn) (c : Code) (at_ : Address) : Insn × Option DecodeError :=
  match c.decode at_ with
  | .ok i => (i, none)
  | .error e => (.blank, some e)

end Code

end CodeSurvey
