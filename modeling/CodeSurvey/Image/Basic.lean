import CodeSurvey.Code
import CodeSurvey.Elf.File
import CodeSurvey.Segment

/-!
# Placed images

An ELF image in memory. The load bias is the lowest link address of a loaded segment, and the image
lies so that this address is at `base`.

- `Image.runtimeAddress?` : where a link address lies
- `Image.segments` : the loaded segments, in table order
- `Image.segmentCode` : the bytes of a segment, placed where it lies
- `Image.parse`, `parseAtLinkAddress` : the image of a file
-/

namespace CodeSurvey

/-- Why an image, or the code of a segment, is not there. -/
inductive ImageError
  | file (cause : Elf.FileError)
  | not64Bit
  | noLoadableSegments
  | segmentOutOfFile (index offset size : Nat)
  | range (cause : RangeError)
  deriving DecidableEq, Repr

def ImageError.message : ImageError → String
  | .file cause => "ELF parse error: " ++ cause.message
  | .not64Bit => "Not a 64-bit ELF image"
  | .noLoadableSegments => "Image has no loadable segments"
  | .segmentOutOfFile index offset size =>
    "Segment #" ++ toString index ++ " file range " ++ Text.hexMarked offset ++ "+"
      ++ Text.hexMarked size ++ " lies outside the file"
  | .range cause => cause.message

structure Image where
  base : Address
  loadBias : Nat
  headers : List Elf.ProgramHeader
  deriving DecidableEq, Repr

namespace Image

/-! ## Placement -/

/-- Where a link address lies, if that is an address. -/
def runtimeAddress? (m : Image) (vaddr : Nat) : Option Address :=
  if m.loadBias ≤ vaddr then m.base.add? (vaddr - m.loadBias) else none

/-- Where the memory of a program header lies, whatever its kind. -/
def rangeOf? (m : Image) (h : Elf.ProgramHeader) : Option AddressRange :=
  (m.runtimeAddress? h.vaddr).bind fun start => (AddressRange.ofSize start h.memSize).toOption

/-- The loaded segment of one entry of the table. -/
def segmentAt? (m : Image) (index : Nat) : Option Segment := do
  let h ← m.headers[index]?
  if h.isLoad then
    let range ← m.rangeOf? h
    return { index, range, protection := .ofBits h.flags, fileOffset := h.offset,
             fileSize := h.fileSize }
  else none

/-- The loaded segments, in table order. -/
def segments (m : Image) : List Segment :=
  (List.range m.headers.length).filterMap m.segmentAt?

def executableSegments (m : Image) : List Segment :=
  m.segments.filter Segment.isExecutable

/-! ## Bytes -/

/-- The bytes that the file holds for a segment, placed at its start. Zeros that memory adds behind
them are not in the file. -/
def segmentCode (s : Segment) (data : List UInt8) : Except ImageError Code :=
  let length := min s.fileSize s.size
  if data.length < s.fileOffset + length then
    .error (.segmentOutOfFile s.index s.fileOffset s.fileSize)
  else
    (Code.place s.start ((data.drop s.fileOffset).take length)).mapError .range

/-! ## From a file -/

/-- The lowest link address of a loaded segment. -/
def lowestLoad? (headers : List Elf.ProgramHeader) : Option Nat :=
  ((headers.filter Elf.ProgramHeader.isLoad).map Elf.ProgramHeader.vaddr).min?

/-- The image of a file, placed at a base. -/
def parse (data : List UInt8) (base : Address) : Except ImageError Image :=
  match Elf.File.read data with
  | .error e => .error (.file e)
  | .ok file =>
    if !file.is64 then .error .not64Bit
    else
      match lowestLoad? file.programHeaders with
      | none => .error .noLoadableSegments
      | some loadBias => .ok ⟨base, loadBias, file.programHeaders⟩

/-- The image of a file, placed where it was linked. -/
def parseAtLinkAddress (data : List UInt8) : Except ImageError Image :=
  (parse data .zero).map fun m => { m with base := .ofNat m.loadBias }

end Image

end CodeSurvey
