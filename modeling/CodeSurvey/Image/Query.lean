import CodeSurvey.Image.Hit
import CodeSurvey.Sweep.Prologue
import CodeSurvey.Sweep.Search

/-!
# Queries

What can be looked for in code, and the hits that it gives. All hits in a piece of code are found
by looking for the first one again and again, each time in the code behind the last.

- `Query.firstHit?` : the first hit in a piece of code
- `Query.resumeAt` : where the search goes on behind a hit
- `Query.hitsIn` : all hits in the code of a segment
-/

namespace CodeSurvey

inductive Query
  /-- Every call, or every call with a destination. -/
  | calls (target : Option Address)
  /-- Every `lea` with a displacement. -/
  | leas (displacement : Int)
  /-- Every function start. -/
  | prologues (mode : PrologueMode)
  deriving DecidableEq, Repr

namespace Query

/-! ## The first hit -/

/-- The first hit in a piece of code; `segmentAt` tells which segment an address counts to. -/
def firstHit? (q : Query) (o : ScanOptions) (segmentAt : Address → Nat) (c : Code) : Option Hit :=
  match q with
  | .calls target => (c.findCall? o target).map fun i => .ofInsn .call (segmentAt i.start) i
  | .leas displacement =>
    (c.findLea? o displacement).map fun i => .ofInsn .lea (segmentAt i.start) i
  | .prologues mode => (c.findPrologue? o mode).map fun a => .ofStart (segmentAt a) a

/-! ## All hits -/

/-- Behind a function start: behind the marker, or behind the instruction there. -/
def resumeAtStart (c : Code) (mode : PrologueMode) (a : Address) : Address :=
  match mode with
  | .landingPad => a + landingPadBytes.length
  | .padding =>
    match c.decode a with
    | .ok i => i.stop
    | .error _ => a + 1

/-- Where a search in some code goes on behind a hit. -/
def resumeAt (q : Query) (c : Code) (h : Hit) : Address :=
  match q with
  | .calls _ | .leas _ => h.stop
  | .prologues mode => resumeAtStart c mode h.address

/-- The hits in what is left of some code. Every hit lies at least one byte behind the last, so as
many rounds as there are bytes are enough. -/
def hitsFrom (q : Query) (o : ScanOptions) (segment : Nat) (c : Code) :
    (rounds : Nat) → (rest : Code) → List Hit
  | 0, _ => []
  | rounds + 1, rest =>
    match q.firstHit? o (fun _ => segment) rest with
    | none => []
    | some h => h :: q.hitsFrom o segment c rounds (c.tailFrom (q.resumeAt c h))

/-- All hits in the code of a segment. -/
def hitsIn (q : Query) (o : ScanOptions) (segment : Nat) (c : Code) : List Hit :=
  q.hitsFrom o segment c (c.length + 1) c

end Query

end CodeSurvey
