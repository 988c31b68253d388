import CodeSurvey.Image.Basic
import CodeSurvey.Image.Query

/-!
# Surveys of an image

The executable segments of an image with the code that a file holds for them. A query is asked of
every segment.

- `Survey.ofImage` : the executable segments with their code
- `Survey.codeAt?` : the code at an address
- `Survey.hits` : the hits of a query, by address
-/

namespace CodeSurvey

/-- The executable segments of an image with their code, and how they are swept. -/
structure Survey where
  options : ScanOptions
  parts : List (Segment × Code)

namespace Survey

/-- Sweeps go on behind bytes that cannot be decoded. -/
def defaultOptions : ScanOptions :=
  { resync := .byteWise }

/-- The survey of an image whose bytes are in a file, unless an executable segment has bytes
outside it. -/
def ofImage (m : Image) (data : List UInt8) : Except ImageError Survey := do
  let parts ← m.executableSegments.mapM fun s => do
    let code ← Image.segmentCode s data
    return (s, code)
  return ⟨defaultOptions, parts⟩

def withOptions (s : Survey) (o : ScanOptions) : Survey :=
  { s with options := o }

def segments (s : Survey) : List Segment :=
  s.parts.map Prod.fst

/-- The code of the first segment that has a byte at an address. -/
def codeAt? (s : Survey) (a : Address) : Option Code :=
  (s.parts.find? fun part => part.2.contains a).map Prod.snd

/-- The hits of all segments, by address; at one address in segment order. -/
def hits (s : Survey) (q : Query) : List Hit :=
  Hit.sortByAddress (s.parts.flatMap fun part => q.hitsIn s.options part.1.index part.2)

end Survey

end CodeSurvey
