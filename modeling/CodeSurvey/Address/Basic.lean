import CodeSurvey.Text.Hex

/-!
# Addresses

A 64-bit machine address and its arithmetic. `+` and `offset` wrap around the address space, the
operations that end in `?` refuse to.

- `Address.toNat` is the view: order and arithmetic are stated on it
- `toNat_add?`, `toNat_sub?`, `toNat_add_of_lt` : each operation through the view
-/

namespace CodeSurvey

/-- A 64-bit machine address. -/
structure Address where
  value : UInt64
  deriving DecidableEq, Repr

namespace Address

/-! ## View -/

def toNat (a : Address) : Nat :=
  a.value.toNat

/-- The address `n` places above zero, modulo the address space. -/
def ofNat (n : Nat) : Address :=
  ⟨UInt64.ofNat n⟩

/-- The address `i` places above zero, modulo the address space. -/
def ofInt (i : Int) : Address :=
  ofNat (i % (1 <<< 64 : Nat)).toNat

def zero : Address :=
  ofNat 0

instance : Inhabited Address := ⟨zero⟩

instance : LT Address := ⟨fun a b => a.toNat < b.toNat⟩

instance : LE Address := ⟨fun a b => a.toNat ≤ b.toNat⟩

instance (a b : Address) : Decidable (a < b) :=
  inferInstanceAs (Decidable (a.toNat < b.toNat))

instance (a b : Address) : Decidable (a ≤ b) :=
  inferInstanceAs (Decidable (a.toNat ≤ b.toNat))

instance : Min Address := ⟨fun a b => if a ≤ b then a else b⟩

instance : Max Address := ⟨fun a b => if a ≤ b then b else a⟩

theorem lt_iff (a b : Address) : a < b ↔ a.toNat < b.toNat :=
  Iff.rfl

theorem le_iff (a b : Address) : a ≤ b ↔ a.toNat ≤ b.toNat :=
  Iff.rfl

theorem toNat_lt (a : Address) : a.toNat < 1 <<< 64 :=
  a.value.toNat_lt

theorem toNat_ofNat_of_lt {n : Nat} (h : n < 1 <<< 64) : (ofNat n).toNat = n := by
  simpa [toNat, ofNat] using h

theorem ofNat_toNat (a : Address) : ofNat a.toNat = a := by
  simp [toNat, ofNat]

theorem toNat_inj {a b : Address} (h : a.toNat = b.toNat) : a = b := by
  rw [← ofNat_toNat a, ← ofNat_toNat b, h]

/-! ## Wrapping arithmetic -/

/-- Moves up, around the end of the address space. -/
def add (a : Address) (n : Nat) : Address :=
  ofNat (a.toNat + n)

instance : HAdd Address Nat Address := ⟨add⟩

/-- Moves by a signed distance, around both ends of the address space. -/
def offset (a : Address) (d : Int) : Address :=
  ofInt (a.toNat + d)

theorem toNat_add_of_lt {a : Address} {n : Nat} (h : a.toNat + n < 1 <<< 64) :
    (a + n).toNat = a.toNat + n :=
  toNat_ofNat_of_lt h

/-! ## Checked arithmetic -/

/-- Moves up, if the sum is an address. -/
def add? (a : Address) (n : Nat) : Option Address :=
  if a.toNat + n < 1 <<< 64 then some (a + n) else none

/-- Moves down, if the difference is an address. -/
def sub? (a : Address) (n : Nat) : Option Address :=
  if n ≤ a.toNat then some (ofNat (a.toNat - n)) else none

/-- How far `a` lies above `b`, if it does not lie below. -/
def distanceFrom? (a b : Address) : Option Nat :=
  if b ≤ a then some (a.toNat - b.toNat) else none

theorem toNat_add? {a b : Address} {n : Nat} (h : a.add? n = some b) :
    b.toNat = a.toNat + n := by
  unfold add? at h
  split at h
  · next hlt =>
    cases h
    exact toNat_add_of_lt hlt
  · cases h

theorem toNat_sub? {a b : Address} {n : Nat} (h : a.sub? n = some b) :
    b.toNat + n = a.toNat := by
  unfold sub? at h
  split at h
  · next hle =>
    cases h
    have := a.toNat_lt
    rw [toNat_ofNat_of_lt (by omega)]
    omega
  · cases h

/-! ## Tests -/

/-- A multiple of `n`; every address is aligned to 0 and 1. -/
def isAligned (a : Address) (n : Nat) : Bool :=
  n ≤ 1 || a.toNat % n == 0

/-- Lies in the half-open interval from `start` to `stop`. -/
def isWithin (a start stop : Address) : Bool :=
  start ≤ a && a < stop

/-! ## Text -/

/-- Sixteen digits behind `0x`. -/
def text (a : Address) : String :=
  "0x" ++ Text.padLeft 16 '0' (Text.hex a.toNat)

instance : ToString Address := ⟨text⟩

end Address

end CodeSurvey
