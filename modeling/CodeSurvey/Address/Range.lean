import CodeSurvey.Address.Basic

/-!
# Address ranges

Half-open ranges of addresses. `make` and `ofSize` refuse what is no range; a range read from a
file may have its end below its start, and then holds no address.

- `AddressRange.contains` is the view
- `overlaps` and `intersection?` are two ways to ask for a common address
-/

namespace CodeSurvey

/-- Why two addresses, or an address and a size, make no range. -/
inductive RangeError
  | inverted (start stop : Address)
  | overflow (start : Address) (size : Nat)
  deriving DecidableEq, Repr

def RangeError.message : RangeError → String
  | .inverted start stop =>
    "Invalid memory range [" ++ Text.hexMarked start.toNat ++ ", " ++ Text.hexMarked stop.toNat
      ++ ")"
  | .overflow start size =>
    "Range starting at " ++ Text.hexMarked start.toNat ++ " with size " ++ Text.hexMarked size
      ++ " overflows the address space"

/-- The addresses from `start` up to, not including, `stop`. -/
structure AddressRange where
  start : Address
  stop : Address
  deriving DecidableEq, Repr

namespace AddressRange

/-! ## Construction -/

def make (start stop : Address) : Except RangeError AddressRange :=
  if stop < start then .error (.inverted start stop) else .ok ⟨start, stop⟩

/-- The range of `size` addresses from `start`, if its end is an address. -/
def ofSize (start : Address) (size : Nat) : Except RangeError AddressRange :=
  match start.add? size with
  | some stop => .ok ⟨start, stop⟩
  | none => .error (.overflow start size)

/-! ## View -/

def contains (r : AddressRange) (a : Address) : Bool :=
  a.isWithin r.start r.stop

def isEmpty (r : AddressRange) : Bool :=
  r.stop ≤ r.start

def size (r : AddressRange) : Nat :=
  r.stop.toNat - r.start.toNat

/-! ## Relations -/

/-- Both ends of `s` lie between the ends of `r`. -/
def containsRange (r s : AddressRange) : Bool :=
  r.start ≤ s.start && s.stop ≤ r.stop

def overlaps (r s : AddressRange) : Bool :=
  r.start < s.stop && s.start < r.stop

/-- The common part, if it has an address. -/
def intersection? (r s : AddressRange) : Option AddressRange :=
  let start := max r.start s.start
  let stop := min r.stop s.stop
  if start < stop then some ⟨start, stop⟩ else none

/-! ## Text -/

def text (r : AddressRange) : String :=
  "[" ++ r.start.text ++ ", " ++ r.stop.text ++ ")"

end AddressRange

end CodeSurvey
