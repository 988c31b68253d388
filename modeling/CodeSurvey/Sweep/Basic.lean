import CodeSurvey.Insn.Decode
import CodeSurvey.Insn.Kind

/-!
# Sweeps over code

A sweep walks a piece of code from its start. At an instruction it moves to the instruction's end;
where nothing can be decoded it ends, or moves on by one byte.

- `Sweep.steps`, `Code.sweep` : everything that a sweep meets, in order
- `Code.scan` : the same walk with a visitor that may end it

Both recurse on the bytes. The counter `skip` holds how many bytes of the last instruction are
still to be passed.
-/

namespace CodeSurvey

/-! ## Options -/

/-- What a sweep does where nothing can be decoded. -/
inductive Resync
  | stop
  | byteWise
  deriving DecidableEq, Repr

structure ScanOptions where
  resync : Resync := .stop
  /-- Function starts have to be multiples of it. -/
  functionAlignment : Option Nat := none
  deriving DecidableEq, Repr

/-- The address may be a function start. -/
def ScanOptions.admits (o : ScanOptions) (a : Address) : Bool :=
  o.functionAlignment.all fun n => a.isAligned n

/-! ## Steps -/

namespace Sweep

/-- One position of a sweep. -/
inductive Step
  | decoded (i : Insn)
  | undecodable (at_ : Address)
  deriving DecidableEq, Repr

namespace Step

def insn? : Step → Option Insn
  | .decoded i => some i
  | .undecodable _ => none

def address : Step → Address
  | .decoded i => i.start
  | .undecodable a => a

/-- A decoded instruction that is filler. -/
def isPadding : Step → Bool
  | .decoded i => i.kind.isPadding
  | .undecodable _ => false

end Step

/-- Everything a sweep meets in the bytes that start at an address, after the first `skip`. -/
def steps (p : Resync) (at_ : Address) : (skip : Nat) → List UInt8 → List Step
  | _, [] => []
  | skip + 1, _ :: bs => steps p (at_ + 1) skip bs
  | 0, b :: bs =>
    match Insn.decodeBytes at_ (b :: bs) with
    | .ok i => .decoded i :: steps p (at_ + 1) (i.length - 1) bs
    | .error _ =>
      match p with
      | .stop => [.undecodable at_]
      | .byteWise => .undecodable at_ :: steps p (at_ + 1) 0 bs

/-! ## Visitors -/

/-- How a visited sweep ended: what the visitor gathered, and the instruction it accepted. -/
structure Outcome (σ : Type) where
  state : σ
  accepted : Option Insn

namespace Outcome

def found {σ : Type} (o : Outcome σ) : Bool :=
  o.accepted.isSome

/-- The accepted instruction, or the blank record. -/
def record {σ : Type} (o : Outcome σ) : Insn :=
  o.accepted.getD .blank

end Outcome

/-- Shows each instruction of a sweep to a visitor, which changes its state and says whether it
accepts; the first accepted instruction ends the sweep. -/
def visit {σ : Type} (p : Resync) (visitor : σ → Insn → σ × Bool) (s : σ) (at_ : Address) :
    (skip : Nat) → List UInt8 → Outcome σ
  | _, [] => ⟨s, none⟩
  | skip + 1, _ :: bs => visit p visitor s (at_ + 1) skip bs
  | 0, b :: bs =>
    match Insn.decodeBytes at_ (b :: bs) with
    | .ok i =>
      match visitor s i with
      | (s, true) => ⟨s, some i⟩
      | (s, false) => visit p visitor s (at_ + 1) (i.length - 1) bs
    | .error _ =>
      match p with
      | .stop => ⟨s, none⟩
      | .byteWise => visit p visitor s (at_ + 1) 0 bs

end Sweep

/-! ## Sweeps of placed code -/

namespace Code

/-- Everything a sweep of the code meets. -/
def sweep (c : Code) (p : Resync) : List Sweep.Step :=
  Sweep.steps p c.start 0 c.bytes

/-- The instructions that a sweep of the code meets. -/
def instructions (c : Code) (p : Resync) : List Insn :=
  (c.sweep p).filterMap Sweep.Step.insn?

/-- Sweeps the code with a visitor. -/
def scan {σ : Type} (c : Code) (p : Resync) (visitor : σ → Insn → σ × Bool) (s : σ) :
    Sweep.Outcome σ :=
  Sweep.visit p visitor s c.start 0 c.bytes

end Code

end CodeSurvey
