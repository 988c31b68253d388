import CodeSurvey.Sweep.Basic

/-!
# Searches for one shape of instruction

- `Code.findFirst?` : the first instruction with a property
- `Code.findAll` : every instruction with a property
- `Insn.isCallTo`, `Insn.isLeaWith` : the properties that are searched for
-/

namespace CodeSurvey

namespace Insn

/-- A call, and if a target is given one whose destination is known to be it. -/
def isCallTo (target : Option Address) (i : Insn) : Bool :=
  i.kind.isCall && target.all fun t => i.callTarget? == some t

/-- A `lea` whose mode has a displacement, of this value. -/
def isLeaWith (displacement : Int) (i : Insn) : Bool :=
  i.kind == .lea && i.mode?.any AddressingMode.hasDisplacement && i.displacement == displacement

end Insn

namespace Code

def findFirst? (c : Code) (p : Resync) (wanted : Insn → Bool) : Option Insn :=
  (c.scan p (fun s i => (s, wanted i)) ()).accepted

def findAll (c : Code) (p : Resync) (wanted : Insn → Bool) : List Insn :=
  (c.scan p (fun found i => (if wanted i then i :: found else found, false)) []).state.reverse

def findCall? (c : Code) (o : ScanOptions) (target : Option Address) : Option Insn :=
  c.findFirst? o.resync (Insn.isCallTo target)

def findLea? (c : Code) (o : ScanOptions) (displacement : Int) : Option Insn :=
  c.findFirst? o.resync (Insn.isLeaWith displacement)

/-- Every instruction with an opcode, in address order. -/
def findOpcode (c : Code) (o : ScanOptions) (opcode : Opcode) : List Insn :=
  c.findAll o.resync fun i => i.opcode == opcode

/-- At most `count` instructions that follow each other from an address on. -/
def listing (c : Code) : (count : Nat) → Address → List Insn
  | 0, _ => []
  | count + 1, at_ =>
    match c.decode at_ with
    | .ok i => i :: listing c count i.stop
    | .error _ => []

end Code

end CodeSurvey
