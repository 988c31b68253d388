import CodeSurvey.CommandLine.Report
import CodeSurvey.CommandLine.Request
import CodeSurvey.Image.Survey
import CodeSurvey.Settings.Basic

/-!
# Running a request

Settings first, then the image, then the command. A window is searched for its first match as one
range is, a whole image for all matches as images are.

- `Request.run` : what is printed, and the failure that ended it if one did
- `Failure.message` : the failure and its causes
-/

namespace CodeSurvey.CommandLine

/-! ## Failures -/

inductive Failure
  | settings (path : String) (cause : SettingsError)
  | cannotOpen (path : String) (cause : FileFault)
  | cannotMap (path : String) (cause : FileFault)
  | image (cause : ImageError)
  | notExecutable (a : Address)
  | window (cause : RangeError)

/-- The fault of a field or an offset is known twice: to the file and to the reader of fields. -/
def fileChain (e : Elf.FileError) : List String :=
  match e with
  | .fieldTooBig .. | .badOffset _ => [e.message, e.message]
  | _ => [e.message]

def imageChain (e : ImageError) : List String :=
  match e with
  | .file cause => e.message :: fileChain cause
  | _ => [e.message]

/-- The failure and then what caused it, from the outside in. -/
def Failure.chain : Failure → List String
  | .settings path cause => ("loading " ++ path) :: cause.chain
  | .cannotOpen path cause => ["opening " ++ path, cause.message]
  | .cannotMap path cause => ["mapping " ++ path, cause.message]
  | .image cause => imageChain cause
  | .notExecutable a => [a.text ++ " is not inside an executable segment"]
  | .window cause => [cause.message]

def Failure.message (f : Failure) : String :=
  ": ".intercalate f.chain

/-- What a run printed, and the failure that ended it. -/
structure Outcome where
  lines : List String := []
  failure : Option Failure := none

/-- The printed text; every line is ended. -/
def Outcome.output (o : Outcome) : String :=
  String.join (o.lines.map fun l => l ++ "\n")

/-! ## Windows -/

/-- The code of a window, nothing if the whole image is meant. The window has to start in an
executable segment and ends with that segment unless an end is given. -/
def Window.code? (w : Window) (s : Survey) : Except Failure (Option Code) :=
  match w.start with
  | none => .ok none
  | some start =>
    match s.codeAt? start with
    | none => .error (.notExecutable start)
    | some c =>
      match c.subrange start (w.stop.getD c.stop) with
      | .ok part => .ok (some part)
      | .error e => .error (.window e)

/-- Index of the first loaded segment at an address, zero if there is none. -/
def segmentIndexAt (m : Image) (a : Address) : Nat :=
  ((m.segments.find? fun s => s.contains a).map Segment.index).getD 0

/-- The hits of a query: the first one in the window, or all of the image. -/
def Window.hits (w : Window) (q : Query) (o : ScanOptions) (m : Image) (s : Survey) :
    Except Failure (List Hit) := do
  match ← w.code? s with
  | some c => return (q.firstHit? o (segmentIndexAt m) c).toList
  | none => return s.hits q

/-! ## Commands -/

/-- The executable segments of an image, swept as the settings say. -/
def surveyOf (m : Image) (data : List UInt8) (settings : Settings) : Except Failure Survey :=
  match Survey.ofImage m data with
  | .ok s => .ok (s.withOptions settings.sweepOptions)
  | .error e => .error (.image e)

/-- The lines that a command answers with. Only commands that decode need the segments' bytes. -/
def Command.answer (asJson : Bool) (settings : Settings) (m : Image) (data : List UInt8) :
    Command → Except Failure (List String)
  | .segments => .ok (Report.segments asJson m.segments)
  | .listing start count => do
    let s ← surveyOf m data settings
    match s.codeAt? start with
    | none => .error (.notExecutable start)
    | some c =>
      let insns := c.listing (count.getD settings.maxListing) start
      return Report.listing asJson (insns.map (ListingLine.ofInsn c))
  | .search query w => do
    let s ← surveyOf m data settings
    return Report.hits asJson (← w.hits query settings.scanOptions m s)
  | .findSegment start size flags =>
    let found := m.findSegment? start size flags settings.segmentStep settings.flagMatch
    .ok (Report.coverage asJson start size flags found)

/-! ## Requests -/

/-- The settings that a request names, or the defaults. -/
def Request.loadSettings (r : Request) (settingsFile : FileEntry) : Except Failure Settings :=
  match r.settings with
  | none => .ok .defaults
  | some path => (Settings.load settingsFile).mapError (.settings path)

/-- The bytes of the image file, which is opened first and then mapped. -/
def Request.loadBinary (r : Request) (binaryFile : FileEntry) : Except Failure (List UInt8) :=
  match binaryFile.openFault? with
  | some fault => .error (.cannotOpen r.binary fault)
  | none => binaryFile.map.mapError (.cannotMap r.binary)

/-- The image that a request names, where the request places it. -/
def Request.loadImage (r : Request) (data : List UInt8) : Except Failure Image :=
  match r.base with
  | some base => (Image.parse data base).mapError .image
  | none => (Image.parseAtLinkAddress data).mapError .image

/-- All that a request needs before its command: settings, the image, and the image's bytes. -/
def Request.load (r : Request) (settingsFile binaryFile : FileEntry) :
    Except Failure (Settings × Image × List UInt8) := do
  let settings ← r.loadSettings settingsFile
  let data ← r.loadBinary binaryFile
  return (settings, ← r.loadImage data, data)

/-- Runs a request on the files that it names. -/
def Request.run (r : Request) (settingsFile binaryFile : FileEntry) : Outcome :=
  match r.load settingsFile binaryFile with
  | .error f => { failure := some f }
  | .ok (settings, m, data) =>
    let header := if r.json then [] else [Report.loaded r.binary m.base]
    match r.command.answer r.json settings m data with
    | .ok lines => { lines := header ++ lines }
    | .error f => { lines := header, failure := some f }

end CodeSurvey.CommandLine
