import CodeSurvey.Image.Basic

/-!
# Segment lookup

Which loaded segment covers a range of addresses. The table may be walked in either direction and
by steps of more than one entry, and the protection may have to match exactly.

- `SegmentStep.indices` : the entries visited, in order
- `FlagMatch.accepts` : protection against request
- `Image.findSegment?`, `containsSegment` : the first entry that answers
-/

namespace CodeSurvey

inductive FlagMatch
  /-- Every requested permission is there. -/
  | subset
  /-- The requested permissions are there and no others. -/
  | exact
  deriving DecidableEq, Repr

def FlagMatch.accepts (m : FlagMatch) (segment requested : Protection) : Bool :=
  match m with
  | .subset => segment.includes requested
  | .exact => segment == requested

inductive StepDirection
  | forward
  | backward
  deriving DecidableEq, Repr

/-- How the program header table is walked. -/
structure SegmentStep where
  direction : StepDirection := .forward
  stride : Nat := 1
  stride_pos : 0 < stride := by decide
  deriving DecidableEq, Repr

/-- The entries visited in a table of some length, from its first or its last entry on. -/
def SegmentStep.indices (s : SegmentStep) (length : Nat) : List Nat :=
  let count := (length + s.stride - 1) / s.stride
  let multiples := (List.range count).map fun n => n * s.stride
  match s.direction with
  | .forward => multiples
  | .backward => multiples.map fun n => length - 1 - n

namespace Image

/-- The first visited segment that covers `size` addresses from `start` and whose protection is
accepted. No segment covers a range that is not one. -/
def findSegment? (m : Image) (start : Address) (size : Nat) (flags : Protection)
    (step : SegmentStep) (policy : FlagMatch) : Option Segment :=
  match AddressRange.ofSize start size with
  | .error _ => none
  | .ok query =>
    (step.indices m.headers.length).findSome? fun index =>
      (m.segmentAt? index).filter fun s =>
        policy.accepts s.protection flags && s.range.containsRange query

def containsSegment (m : Image) (start : Address) (size : Nat) (flags : Protection)
    (step : SegmentStep) : Bool :=
  (m.findSegment? start size flags step .subset).isSome

end Image

end CodeSurvey
