import CodeSurvey.Bytes
import CodeSurvey.Text.Hex

/-!
# ELF files

The program header table of an ELF file of either class and byte order. A file is read in the order
of its parts, identification, file header, program headers, section headers, and the first fault
decides.

- `Elf.ProgramHeader` : the fields that placing an image needs
- `Elf.File.read` : class and program headers of a file, or why it has none
-/

namespace CodeSurvey.Elf

structure ProgramHeader where
  kind : Nat
  flags : Nat
  offset : Nat
  vaddr : Nat
  fileSize : Nat
  memSize : Nat
  deriving DecidableEq, Repr

/-- The segment is loaded into memory. -/
def ProgramHeader.isLoad (h : ProgramHeader) : Bool :=
  h.kind == 1

/-! ## Faults -/

inductive Table
  | programHeaders
  | sectionHeaders
  deriving DecidableEq, Repr

def Table.name : Table → String
  | .programHeaders => "program headers"
  | .sectionHeaders => "section headers"

/-- Why a file cannot be read. -/
inductive FileError
  | tooSmall
  | badMagic (magic : Nat)
  | badClass (byte : Nat)
  | badByteOrder (byte : Nat)
  | fieldTooBig (width left : Nat)
  | badOffset (offset : Nat)
  | tableTooLong (count : Nat) (table : Table)
  deriving DecidableEq, Repr

def FileError.message : FileError → String
  | .tooSmall => "Malformed entity: Too small"
  | .badMagic magic => "Invalid magic number: " ++ Text.hexMarked magic
  | .badClass byte => "Malformed entity: invalid ELF class " ++ Text.hex byte
  | .badByteOrder byte => "Malformed entity: invalid ELF endianness DATA type " ++ Text.hex byte
  | .fieldTooBig width left =>
    "type is too big (" ++ toString width ++ ") for " ++ toString left
  | .badOffset offset => "bad offset " ++ toString offset
  | .tableTooLong count table =>
    "Buffer is too short for " ++ toString count ++ " " ++ table.name

/-! ## Fields -/

/-- Class and byte order of a file. -/
structure Layout where
  is64 : Bool
  bigEndian : Bool
  deriving DecidableEq, Repr

namespace Layout

/-- Width of an address or a file offset. -/
def word (l : Layout) : Nat :=
  if l.is64 then 8 else 4

def programHeaderSize (l : Layout) : Nat :=
  if l.is64 then 56 else 32

def sectionHeaderSize (l : Layout) : Nat :=
  if l.is64 then 64 else 40

/-- Widths of the fields behind the identification bytes. -/
def fileHeaderWidths (l : Layout) : List Nat :=
  [2, 2, 4, l.word, l.word, l.word, 4, 2, 2, 2, 2, 2, 2]

def programHeaderWidths (l : Layout) : List Nat :=
  if l.is64 then [4, 4, 8, 8, 8, 8, 8, 8] else List.replicate 8 4

def sectionHeaderWidths (l : Layout) : List Nat :=
  [4, 4, l.word, l.word, l.word, l.word, 4, 4, l.word, l.word]

def value (l : Layout) (bs : List UInt8) : Nat :=
  if l.bigEndian then Bytes.big bs else Bytes.little bs

/-- Reads fields of given widths one after another. -/
def readFields (l : Layout) : List Nat → List UInt8 → Except FileError (List Nat × List UInt8)
  | [], bs => .ok ([], bs)
  | w :: ws, bs =>
    match Bytes.split? w bs with
    | none => .error (.fieldTooBig w bs.length)
    | some (field, rest) => do
      let (values, rest) ← l.readFields ws rest
      return (l.value field :: values, rest)

/-- The program header with these field values, which the two classes order differently. -/
def programHeader (l : Layout) (values : List Nat) : ProgramHeader :=
  let field (n : Nat) := values.getD n 0
  if l.is64 then
    ⟨field 0, field 1, field 2, field 3, field 5, field 6⟩
  else
    ⟨field 0, field 6, field 1, field 2, field 4, field 5⟩

/-- Reads program headers that follow each other. -/
def readProgramHeaders (l : Layout) : Nat → List UInt8 → Except FileError (List ProgramHeader)
  | 0, _ => .ok []
  | n + 1, bs => do
    let (values, bs) ← l.readFields l.programHeaderWidths bs
    let headers ← l.readProgramHeaders n bs
    return l.programHeader values :: headers

/-- Checks that section headers follow each other; their fields do not matter. -/
def skipSectionHeaders (l : Layout) : Nat → List UInt8 → Except FileError Unit
  | 0, _ => .ok ()
  | n + 1, bs => do
    let (_, bs) ← l.readFields l.sectionHeaderWidths bs
    l.skipSectionHeaders n bs

end Layout

/-! ## Files -/

/-- The bytes from an offset on; the offset may be the length. -/
def bytesAt (data : List UInt8) (offset : Nat) : Except FileError (List UInt8) :=
  if data.length < offset then .error (.badOffset offset) else .ok (data.drop offset)

structure File where
  is64 : Bool
  programHeaders : List ProgramHeader
  deriving DecidableEq, Repr

namespace File

/-- Reads class and byte order from the sixteen identification bytes. -/
def readLayout (data : List UInt8) : Except FileError Layout :=
  if data.length < 16 then .error .tooSmall
  else if data.take 4 ≠ [0x7f, 0x45, 0x4c, 0x46] then
    .error (.badMagic (Bytes.little (data.take 8)))
  else
    let classByte := (data.getD 4 0).toNat
    let orderByte := (data.getD 5 0).toNat
    if classByte ≠ 1 ∧ classByte ≠ 2 then .error (.badClass classByte)
    else if orderByte ≠ 1 ∧ orderByte ≠ 2 then .error (.badByteOrder orderByte)
    else .ok ⟨classByte == 2, orderByte == 2⟩

def readProgramHeaders (l : Layout) (data : List UInt8) (offset count : Nat) :
    Except FileError (List ProgramHeader) :=
  if data.length / l.programHeaderSize < count then
    .error (.tableTooLong count .programHeaders)
  else if count = 0 then .ok []
  else do
    let bs ← bytesAt data offset
    l.readProgramHeaders count bs

/-- Checks the section header table. A count of zero means that the size field of the first header
holds the count. -/
def checkSectionHeaders (l : Layout) (data : List UInt8) (offset count : Nat) :
    Except FileError Unit :=
  if offset = 0 then .ok ()
  else do
    let bs ← bytesAt data offset
    let (values, bs) ← l.readFields l.sectionHeaderWidths bs
    let count := if count = 0 then values.getD 5 0 else count
    if data.length / l.sectionHeaderSize < count then
      .error (.tableTooLong count .sectionHeaders)
    else l.skipSectionHeaders (count - 1) bs

/-- Reads class and program headers. -/
def read (data : List UInt8) : Except FileError File := do
  let l ← readLayout data
  let (values, _) ← l.readFields l.fileHeaderWidths (data.drop 16)
  let field (n : Nat) := values.getD n 0
  let headers ← readProgramHeaders l data (field 4) (field 9)
  checkSectionHeaders l data (field 5) (field 11)
  return ⟨l.is64, headers⟩

end File

end CodeSurvey.Elf
