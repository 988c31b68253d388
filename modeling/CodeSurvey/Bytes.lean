/-!
# Numbers in bytes

Fixed-width numbers as byte lists, and cutting a list at a given width.

- `Bytes.little`, `Bytes.big` : the unsigned value in either byte order
- `Bytes.signed` : the two's complement value, least significant byte first
- `Bytes.split?` : the first `n` bytes and the rest, if there are that many
-/

namespace CodeSurvey.Bytes

/-- Unsigned value, least significant byte first. -/
def little : List UInt8 → Nat
  | [] => 0
  | b :: bs => b.toNat + 256 * little bs

/-- Unsigned value, most significant byte first. -/
def big (bs : List UInt8) : Nat :=
  little bs.reverse

/-- Two's complement value, least significant byte first; no bytes are zero. -/
def signed (bs : List UInt8) : Int :=
  Int.bmod (little bs) (1 <<< (8 * bs.length))

def split? (n : Nat) (bs : List UInt8) : Option (List UInt8 × List UInt8) :=
  if n ≤ bs.length then some (bs.take n, bs.drop n) else none

theorem split?_append {n : Nat} {bs front rest : List UInt8} (h : split? n bs = some (front, rest)) :
    bs = front ++ rest ∧ front.length = n := by
  unfold split? at h
  split at h
  · next hn =>
    cases h
    exact ⟨(List.take_append_drop n bs).symm, List.length_take_of_le hn⟩
  · cases h

theorem split?_of_append (front rest : List UInt8) :
    split? front.length (front ++ rest) = some (front, rest) := by
  simp [split?]

end CodeSurvey.Bytes
