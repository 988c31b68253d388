import CodeSurvey.Address.Range
import CodeSurvey.Image.Hit
import CodeSurvey.Insn.Opcode
import CodeSurvey.Json.Record
import CodeSurvey.Json.Value

/-!
# JSON forms of addresses, ranges, opcodes and hits

Addresses and opcodes are numbers. A range is read as it stands, also with its end below its start.

- `Address.json`, `AddressRange.json`, `Opcode.json`, `Hit.json` : writing
- `Address.readJson`, `AddressRange.readJson`, `Opcode.readJson` : reading
-/

namespace CodeSurvey

open Json

/-! ## Addresses -/

def Address.json (a : Address) : Value :=
  .number a.toNat

def Address.readJson : Reader Address := fun cs =>
  (readUnsigned (1 <<< 64) "u64" cs).map fun (n, rest) => (.ofNat n, rest)

/-! ## Ranges -/

def AddressRange.json (r : AddressRange) : Value :=
  .object [("start", r.start.json), ("end", r.stop.json)]

/-- The ends of a range, as far as they have been read. -/
structure AddressRange.Draft where
  start : Option Address := none
  stop : Option Address := none

def AddressRange.Draft.finish (d : AddressRange.Draft) : Except Cause AddressRange :=
  match d.start, d.stop with
  | some start, some stop => .ok ⟨start, stop⟩
  | none, _ => .error (.missingField "start")
  | some _, none => .error (.missingField "end")

def AddressRange.form : RecordForm AddressRange.Draft AddressRange where
  title := "struct MemoryRange"
  fields :=
    [⟨"start", fun d cs => (Address.readJson cs).map fun (a, rest) =>
        ({ d with start := some a }, rest)⟩,
     ⟨"end", fun d cs => (Address.readJson cs).map fun (a, rest) =>
        ({ d with stop := some a }, rest)⟩]
  initial := {}
  finish := AddressRange.Draft.finish
  mayEndEarly := false

def AddressRange.readJson : Reader AddressRange :=
  AddressRange.form.read

/-! ## Opcodes -/

def Opcode.json (op : Opcode) : Value :=
  .number op.raw.toNat

/-- Any 16-bit number, also one that no opcode has. -/
def Opcode.readJson : Reader Opcode := fun cs =>
  (readUnsigned (1 <<< 16) "u16" cs).map fun (n, rest) => (⟨UInt16.ofNat n⟩, rest)

/-! ## Hits -/

def Hit.json (h : Hit) : Value :=
  .object [("kind", .string h.kind.name), ("address", h.address.json),
    ("length", .number h.length), ("segment", .number h.segment),
    ("target", .ofOption (h.target.map Address.toNat))]

end CodeSurvey
