import CodeSurvey.FileEntry
import CodeSurvey.Settings.Options

/-!
# Settings

What a user can set in a file. Every setting has a default, so a file may name any of them, and two
have values that make no sense.

- `Settings.scanOptions`, `sweepOptions` : how one range and how whole images are swept
- `Settings.validate` : refuses what makes no sense
- `Settings.json`, `Settings.load` : the file
-/

namespace CodeSurvey

open Json

structure Settings where
  /-- For searches in one range. -/
  resync : Resync := .stop
  /-- For searches in whole images, which meet data and unknown instructions. -/
  sweepResync : Resync := .byteWise
  functionAlignment : Option Nat := none
  flagMatch : FlagMatch := .subset
  segmentStep : SegmentStep := {}
  maxListing : Nat := 64
  deriving DecidableEq, Repr

/-! ## Faults -/

/-- A setting whose value makes no sense. -/
inductive InvalidSetting
  | alignment (n : Nat)
  | noListing
  deriving DecidableEq, Repr

def InvalidSetting.message : InvalidSetting → String
  | .alignment n =>
    "Invalid config: function_alignment must be a power of two, got " ++ toString n
  | .noListing => "Invalid config: max_listing must be greater than 0"

inductive SettingsError
  | unreadable (cause : FileFault)
  | malformed (problem : Problem) (text : String)
  | invalid (setting : InvalidSetting)

/-- The error and then what caused it, from the outside in. -/
def SettingsError.chain : SettingsError → List String
  | .unreadable cause => ["IO error: " ++ cause.message, cause.message]
  | .malformed problem text =>
    ["Invalid config file: " ++ problem.message text, problem.message text]
  | .invalid setting => [setting.message]

namespace Settings

/-! ## Options -/

/-- The settings without a file. -/
def defaults : Settings := {}

def scanOptions (s : Settings) : ScanOptions :=
  ⟨s.resync, s.functionAlignment⟩

def sweepOptions (s : Settings) : ScanOptions :=
  { s.scanOptions with resync := s.sweepResync }

/-! ## Validity -/

def isPowerOfTwo (n : Nat) : Bool :=
  1 <<< n.log2 == n

/-- An alignment has to be a power of two, and a listing needs a line. -/
def validate (s : Settings) : Except InvalidSetting Unit :=
  match s.functionAlignment.filter fun n => !isPowerOfTwo n with
  | some n => .error (.alignment n)
  | none => if s.maxListing = 0 then .error .noListing else .ok ()

/-! ## File -/

def json (s : Settings) : Value :=
  .object [("resync", .string s.resync.name), ("sweep_resync", .string s.sweepResync.name),
    ("function_alignment", .ofOption s.functionAlignment),
    ("flag_match", .string s.flagMatch.name), ("segment_step", s.segmentStep.json),
    ("max_listing", .number s.maxListing)]

def form : RecordForm Settings Settings where
  title := "struct ScanConfig"
  fields :=
    [⟨"resync", fun s cs => (Resync.readJson cs).map fun (a, rest) =>
        ({ s with resync := a }, rest)⟩,
     ⟨"sweep_resync", fun s cs => (Resync.readJson cs).map fun (a, rest) =>
        ({ s with sweepResync := a }, rest)⟩,
     ⟨"function_alignment", fun s cs => (readAlignment cs).map fun (a, rest) =>
        ({ s with functionAlignment := a }, rest)⟩,
     ⟨"flag_match", fun s cs => (FlagMatch.readJson cs).map fun (a, rest) =>
        ({ s with flagMatch := a }, rest)⟩,
     ⟨"segment_step", fun s cs => (SegmentStep.readJson cs).map fun (a, rest) =>
        ({ s with segmentStep := a }, rest)⟩,
     ⟨"max_listing", fun s cs => (readUnsigned (1 <<< 64) "usize" cs).map fun (a, rest) =>
        ({ s with maxListing := a }, rest)⟩]
  initial := defaults
  finish := .ok
  mayEndEarly := true

/-- The valid settings that a text holds. -/
def ofText (text : String) : Except SettingsError Settings :=
  match readDocument form.read text with
  | .error problem => .error (.malformed problem text)
  | .ok s =>
    match s.validate with
    | .ok () => .ok s
    | .error setting => .error (.invalid setting)

/-- The valid settings that a file holds. -/
def load (file : FileEntry) : Except SettingsError Settings :=
  match file.readText with
  | .error fault => .error (.unreadable fault)
  | .ok text => ofText text

end Settings

end CodeSurvey
