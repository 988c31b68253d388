import CodeSurvey.Insn.Kind
import CodeSurvey.Segment

/-!
# Hits

One match of a search: what was found, where, in which segment, and for a call its destination.

- `Hit.sortByAddress` : by address, hits at one address in the order they came
-/

namespace CodeSurvey

inductive HitKind
  | call
  | lea
  | prologue
  deriving DecidableEq, Repr

def HitKind.name : HitKind → String
  | .call => "call"
  | .lea => "lea"
  | .prologue => "prologue"

structure Hit where
  kind : HitKind
  address : Address
  length : Nat
  /-- Index of the segment's program header. -/
  segment : Nat
  target : Option Address
  deriving DecidableEq, Repr

namespace Hit

def ofInsn (kind : HitKind) (segment : Nat) (i : Insn) : Hit :=
  ⟨kind, i.start, i.length, segment, i.callTarget?⟩

/-- A function start has no length of its own. -/
def ofStart (segment : Nat) (a : Address) : Hit :=
  ⟨.prologue, a, 0, segment, none⟩

/-- The address behind the match. -/
def stop (h : Hit) : Address :=
  h.address + h.length

def sortByAddress (hits : List Hit) : List Hit :=
  hits.mergeSort fun a b => a.address ≤ b.address

def text (h : Hit) : String :=
  let target :=
    match h.target with
    | some t => ", target " ++ t.text
    | none => ""
  h.address.text ++ " " ++ h.kind.name ++ " (segment #" ++ toString h.segment ++ target ++ ")"

end Hit

end CodeSurvey
