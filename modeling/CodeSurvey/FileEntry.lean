/-!
# Files

What a path leads to, and the two ways to get at it: settings are read from start to end, images are
mapped into memory, which needs a regular file.

- `FileFault` : why there is nothing to be had, with its wording
- `FileEntry` : what a path leads to
- `FileEntry.read`, `FileEntry.map` : its bytes
-/

namespace CodeSurvey

inductive FileFault
  | missing
  | permissionDenied
  | notMappable
  | notDirectory
  | isDirectory
  | nameTooLong
  | nulInName
  | notUtf8
  /-- Any other error that the system has a text and a number for. -/
  | other (text : String) (code : Nat)
  deriving DecidableEq, Repr

namespace FileFault

/-- The system's text and number of an error. -/
def systemText (text : String) (code : Nat) : String :=
  text ++ " (os error " ++ toString code ++ ")"

def message : FileFault → String
  | .missing => systemText "No such file or directory" 2
  | .permissionDenied => systemText "Permission denied" 13
  | .notMappable => systemText "No such device" 19
  | .notDirectory => systemText "Not a directory" 20
  | .isDirectory => systemText "Is a directory" 21
  | .nameTooLong => systemText "File name too long" 36
  | .nulInName => "file name contained an unexpected NUL byte"
  | .notUtf8 => "stream did not contain valid UTF-8"
  | .other text code => systemText text code

end FileFault

inductive FileEntry
  | regular (bytes : List UInt8)
  /-- Bytes that come one after another and have no place to be mapped. -/
  | stream (bytes : List UInt8)
  | directory
  /-- The path leads nowhere. -/
  | unreachable (fault : FileFault)
  deriving DecidableEq, Repr

namespace FileEntry

/-- Why the entry cannot be opened. Directories can be. -/
def openFault? : FileEntry → Option FileFault
  | .unreachable fault => some fault
  | _ => none

/-- The bytes from start to end. -/
def read : FileEntry → Except FileFault (List UInt8)
  | .regular bytes => .ok bytes
  | .stream bytes => .ok bytes
  | .directory => .error .isDirectory
  | .unreachable fault => .error fault

/-- The bytes as text. -/
def readText (f : FileEntry) : Except FileFault String :=
  match f.read with
  | .error fault => .error fault
  | .ok bytes =>
    match String.fromUTF8? bytes.toByteArray with
    | none => .error .notUtf8
    | some text => .ok text

/-- The bytes as they lie in memory. -/
def map : FileEntry → Except FileFault (List UInt8)
  | .regular bytes => .ok bytes
  | .stream _ => .error .notMappable
  | .directory => .error .notMappable
  | .unreachable fault => .error fault

end FileEntry

end CodeSurvey
