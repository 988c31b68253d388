import CodeSurvey.Address.Range
import CodeSurvey.Protection

/-!
# Loaded segments

One segment of an image as it lies in memory, with the place of its bytes in the file. The index is
that of its entry in the program header table.
-/

namespace CodeSurvey

structure Segment where
  index : Nat
  range : AddressRange
  protection : Protection
  fileOffset : Nat := 0
  fileSize : Nat := range.size
  deriving DecidableEq, Repr

namespace Segment

def start (s : Segment) : Address :=
  s.range.start

def stop (s : Segment) : Address :=
  s.range.stop

def size (s : Segment) : Nat :=
  s.range.size

def contains (s : Segment) (a : Address) : Bool :=
  s.range.contains a

def isExecutable (s : Segment) : Bool :=
  s.protection.execute

def text (s : Segment) : String :=
  "#" ++ toString s.index ++ " " ++ s.range.text ++ " " ++ s.protection.text ++ " (file: "
    ++ Text.hexMarked s.fileOffset ++ "+" ++ Text.hexMarked s.fileSize ++ ")"

end Segment

end CodeSurvey
