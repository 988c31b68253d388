import CodeSurvey.Image.Lookup
import CodeSurvey.Json.Record
import CodeSurvey.Json.Value
import CodeSurvey.Sweep.Prologue

/-!
# JSON forms of options

The choices that settings are made of are written as names, records with their fields in order.

- `Resync`, `PrologueMode`, `FlagMatch`, `StepDirection` : names
- `ScanOptions` : a record whose missing fields have defaults
- `SegmentStep` : a record with both fields and a stride of at least one
-/

namespace CodeSurvey

open Json

/-! ## Choices -/

def Resync.name : Resync → String
  | .stop => "stop"
  | .byteWise => "byte_wise"

def Resync.readJson : Reader Resync :=
  readChoice [("stop", .stop), ("byte_wise", .byteWise)]

def PrologueMode.key : PrologueMode → String
  | .landingPad => "landing_pad"
  | .padding => "padding"

def PrologueMode.readJson : Reader PrologueMode :=
  readChoice [("landing_pad", .landingPad), ("padding", .padding)]

def FlagMatch.name : FlagMatch → String
  | .subset => "subset"
  | .exact => "exact"

def FlagMatch.readJson : Reader FlagMatch :=
  readChoice [("subset", .subset), ("exact", .exact)]

def StepDirection.name : StepDirection → String
  | .forward => "forward"
  | .backward => "backward"

def StepDirection.readJson : Reader StepDirection :=
  readChoice [("forward", .forward), ("backward", .backward)]

/-! ## Scan options -/

def ScanOptions.json (o : ScanOptions) : Value :=
  .object [("resync", .string o.resync.name),
    ("function_alignment", .ofOption o.functionAlignment)]

/-- An alignment is any word or `null`. -/
def readAlignment : Reader (Option Nat) :=
  readOption (readUnsigned (1 <<< 64) "u64")

def ScanOptions.form : RecordForm ScanOptions ScanOptions where
  title := "struct ScanOptions"
  fields :=
    [⟨"resync", fun o cs => (Resync.readJson cs).map fun (a, rest) =>
        ({ o with resync := a }, rest)⟩,
     ⟨"function_alignment", fun o cs => (readAlignment cs).map fun (a, rest) =>
        ({ o with functionAlignment := a }, rest)⟩]
  initial := {}
  finish := .ok
  mayEndEarly := true

def ScanOptions.readJson : Reader ScanOptions :=
  ScanOptions.form.read

/-! ## Steps through a table -/

def SegmentStep.json (s : SegmentStep) : Value :=
  .object [("direction", .string s.direction.name), ("stride", .number s.stride)]

/-- A stride that has been checked. -/
abbrev Stride := { n : Nat // 0 < n }

def readStride : Reader Stride := fun cs => do
  let (n, rest) ← readUnsigned (1 <<< 64) "a nonzero usize" cs
  if h : 0 < n then return (⟨n, h⟩, rest)
  else fail (.wrongValue (Number.natural n).text "a nonzero usize") rest

/-- The fields of a step, as far as they have been read. -/
structure SegmentStep.Draft where
  direction : Option StepDirection := none
  stride : Option Stride := none

def SegmentStep.Draft.finish (d : SegmentStep.Draft) : Except Cause SegmentStep :=
  match d.direction, d.stride with
  | some direction, some stride => .ok ⟨direction, stride.1, stride.2⟩
  | none, _ => .error (.missingField "direction")
  | some _, none => .error (.missingField "stride")

def SegmentStep.form : RecordForm SegmentStep.Draft SegmentStep where
  title := "struct SegmentStep"
  fields :=
    [⟨"direction", fun d cs => (StepDirection.readJson cs).map fun (a, rest) =>
        ({ d with direction := some a }, rest)⟩,
     ⟨"stride", fun d cs => (readStride cs).map fun (a, rest) =>
        ({ d with stride := some a }, rest)⟩]
  initial := {}
  finish := SegmentStep.Draft.finish
  mayEndEarly := false

def SegmentStep.readJson : Reader SegmentStep :=
  SegmentStep.form.read

end CodeSurvey
