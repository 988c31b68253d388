import CodeSurvey.Address.Range

/-!
# Placed code

Bytes at consecutive addresses. The address behind the last byte exists, so the end of a piece of
code never wraps around; every operation keeps that.

- `Code.read?` is the view: which byte lies at which address
- `subrange`, `tailFrom` : narrower views of the same bytes
-/

namespace CodeSurvey

/-- Bytes placed from the address `base` on. -/
structure Code where
  base : Address
  bytes : List UInt8
  fits : base.toNat + bytes.length < 1 <<< 64
  deriving DecidableEq

namespace Code

/-! ## Construction -/

/-- Places bytes at an address, if the address behind them exists. -/
def place (base : Address) (bytes : List UInt8) : Except RangeError Code :=
  if h : base.toNat + bytes.length < 1 <<< 64 then .ok ⟨base, bytes, h⟩
  else .error (.overflow base bytes.length)

/-- No bytes at all. -/
def nothingAt (base : Address) : Code :=
  ⟨base, [], base.toNat_lt⟩

/-! ## View -/

def start (c : Code) : Address :=
  c.base

/-- The address behind the last byte. -/
def stop (c : Code) : Address :=
  c.base + c.bytes.length

def length (c : Code) : Nat :=
  c.bytes.length

def isEmpty (c : Code) : Bool :=
  c.bytes.isEmpty

def contains (c : Code) (a : Address) : Bool :=
  a.isWithin c.start c.stop

def offsetOf? (c : Code) (a : Address) : Option Nat :=
  if c.contains a then a.distanceFrom? c.base else none

def bytesFrom? (c : Code) (a : Address) : Option (List UInt8) :=
  (c.offsetOf? a).map fun n => c.bytes.drop n

def read? (c : Code) (a : Address) : Option UInt8 :=
  (c.bytesFrom? a).bind List.head?

theorem toNat_stop (c : Code) : c.stop.toNat = c.base.toNat + c.bytes.length :=
  Address.toNat_add_of_lt c.fits

theorem contains_iff (c : Code) (a : Address) :
    c.contains a = true ↔ c.base.toNat ≤ a.toNat ∧ a.toNat < c.base.toNat + c.bytes.length := by
  simp [contains, Address.isWithin, start, Address.le_iff, Address.lt_iff, toNat_stop]

/-- Code is its start and its bytes. -/
theorem eq_of_bytes {c d : Code} (hbase : c.base = d.base) (hbytes : c.bytes = d.bytes) : c = d := by
  cases c
  cases d
  cases hbase
  cases hbytes
  rfl

/-! ## Narrowing -/

/-- The bytes between two addresses that bound the window, which may reach past the code. -/
def window (c : Code) (lo hi : Address) (above : c.base ≤ lo) (upTo : lo < hi)
    (below : hi ≤ c.stop) : Code where
  base := lo
  bytes := (c.bytes.drop (lo.toNat - c.base.toNat)).take (hi.toNat - lo.toNat)
  fits := by
    have := c.fits
    have := c.toNat_stop
    rw [Address.le_iff] at above below
    rw [Address.lt_iff] at upTo
    have := hi.toNat_lt
    simp only [List.length_take, List.length_drop]
    omega

/-- The code in the window from `start` to `stop`. A window that shares no address with the code
gives no bytes, placed at the larger of the two starts. -/
def subrange (c : Code) (start stop : Address) : Except RangeError Code :=
  if stop < start then .error (.inverted start stop)
  else
    let lo := max start c.start
    let hi := min stop c.stop
    if h : lo < hi then
      .ok (c.window lo hi
        (by
          show c.base ≤ max start c.base
          rw [Address.le_iff]
          show _ ≤ (if start ≤ c.base then c.base else start).toNat
          split
          · exact Nat.le_refl _
          · next hn => exact Nat.le_of_lt (Nat.lt_of_not_le hn))
        h
        (by
          show (if stop ≤ c.stop then stop else c.stop) ≤ c.stop
          split
          · assumption
          · exact Nat.le_refl _))
    else .ok (nothingAt lo)

/-- The code from an address on; outside the code no bytes, placed at its end. -/
def tailFrom (c : Code) (a : Address) : Code :=
  if h : c.contains a = true then
    { base := a
      bytes := c.bytes.drop (a.toNat - c.base.toNat)
      fits := by
        have := (c.contains_iff a).1 h
        have := c.fits
        simp only [List.length_drop]
        omega }
  else nothingAt c.stop

/-! ## Text -/

/-- Both ends, in decimal. -/
def debugText (c : Code) : String :=
  let endText (a : Address) := "Address \x7b value: " ++ toString a.toNat ++ " \x7d"
  "CodeBuffer \x7b start: " ++ endText c.start ++ ", end: " ++ endText c.stop ++ " \x7d"

end Code

end CodeSurvey
