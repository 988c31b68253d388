import CodeSurvey.Address.Basic
import Mathlib.Algebra.Group.Int.Defs
import Mathlib.Algebra.Group.Nat.Defs

/-!
# Wrapping addresses

The operations that wrap are arithmetic modulo `2 ^ 64`.

* `Address.toNat_add`, `toNat_offset` : moves up, and by a signed distance;
* `Address.add_add`, `offset_offset` : moves add up, whether they wrap or not;
* `Address.offset_comm` : so two of them may change places;
* `Address.isAligned_offset` : a multiple of the alignment that does not wrap keeps it;
* `Address.head?_eq_some_iff` : the first of increasing addresses is the least.
-/

namespace CodeSurvey.Address

/-! ## Through the view -/

theorem toNat_ofNat (n : Nat) : (ofNat n).toNat = n % 2 ^ 64 := by
  simp [toNat, ofNat]

theorem toNat_ofInt (i : Int) : ((ofInt i).toNat : Int) = i % 2 ^ 64 := by
  have hnonneg : 0 ≤ i % 2 ^ 64 := Int.emod_nonneg _ (by decide)
  have hlt : i % 2 ^ 64 < 2 ^ 64 := Int.emod_lt_of_pos _ (by decide)
  have hofInt : ofInt i = ofNat (i % 2 ^ 64).toNat := rfl
  rw [hofInt, toNat_ofNat_of_lt (by omega), Int.toNat_of_nonneg hnonneg]

theorem toNat_add (a : Address) (n : Nat) : (a + n).toNat = (a.toNat + n) % 2 ^ 64 :=
  toNat_ofNat (a.toNat + n)

theorem toNat_offset (a : Address) (d : Int) :
    ((a.offset d).toNat : Int) = (a.toNat + d) % 2 ^ 64 :=
  toNat_ofInt (a.toNat + d)

theorem toNat_max (a b : Address) : (max a b).toNat = max a.toNat b.toNat := by
  show (if a ≤ b then b else a).toNat = max a.toNat b.toNat
  by_cases hle : a ≤ b
  · rw [if_pos hle, Nat.max_eq_right hle]
  · rw [if_neg hle, Nat.max_eq_left (Nat.le_of_not_le hle)]

theorem toNat_min (a b : Address) : (min a b).toNat = min a.toNat b.toNat := by
  show (if a ≤ b then a else b).toNat = min a.toNat b.toNat
  by_cases hle : a ≤ b
  · rw [if_pos hle, Nat.min_eq_left hle]
  · rw [if_neg hle, Nat.min_eq_right (Nat.le_of_not_le hle)]

theorem isWithin_iff {a start stop : Address} :
    a.isWithin start stop = true ↔ start.toNat ≤ a.toNat ∧ a.toNat < stop.toNat := by
  rw [isWithin, Bool.and_eq_true, decide_eq_true_iff, decide_eq_true_iff, le_iff, lt_iff]

/-! ## Moves up -/

theorem add_zero (a : Address) : a + 0 = a := by
  apply toNat_inj
  exact toNat_add_of_lt a.toNat_lt

theorem add_add (a : Address) (m n : Nat) : a + m + n = a + (m + n) := by
  apply toNat_inj
  calc
    (a + m + n).toNat = ((a.toNat + m) % 2 ^ 64 + n) % 2 ^ 64 := by rw [toNat_add, toNat_add]
    _ = (a.toNat + (m + n)) % 2 ^ 64 := by rw [Nat.mod_add_mod, Nat.add_assoc]
    _ = (a + (m + n)).toNat := (toNat_add a (m + n)).symm

/-! ## Moves by a signed distance -/

/-- Numbers that differ by a multiple of the size of the address space are one address. -/
theorem ofInt_congr {i j : Int} (h : i % 2 ^ 64 = j % 2 ^ 64) : ofInt i = ofInt j := by
  apply toNat_inj
  have hi := toNat_ofInt i
  have hj := toNat_ofInt j
  omega

theorem ofInt_toNat (a : Address) : ofInt a.toNat = a := by
  apply toNat_inj
  have hofInt := toNat_ofInt a.toNat
  have hlt := a.toNat_lt
  omega

theorem ofInt_bmod (i : Int) : ofInt (Int.bmod i (1 <<< 64)) = ofInt i :=
  ofInt_congr Int.bmod_emod

theorem offset_ofInt (i d : Int) : (ofInt i).offset d = ofInt (i + d) := by
  apply ofInt_congr
  rw [toNat_ofInt]
  exact Int.emod_add_emod i (2 ^ 64) d

theorem offset_offset (a : Address) (d e : Int) : (a.offset d).offset e = a.offset (d + e) := by
  calc
    (a.offset d).offset e = ofInt (a.toNat + d + e) := offset_ofInt (a.toNat + d) e
    _ = a.offset (d + e) := by rw [Int.add_assoc, offset]

theorem offset_comm (a : Address) (d e : Int) :
    (a.offset d).offset e = (a.offset e).offset d := by
  rw [offset_offset, offset_offset, Int.add_comm]

theorem add_eq_offset (a : Address) (n : Nat) : a + n = a.offset n := by
  apply toNat_inj
  have hadd := toNat_add a n
  have hoffset := toNat_offset a n
  omega

theorem offset_add (a : Address) (d : Int) (n : Nat) : a.offset d + n = (a + n).offset d := by
  rw [add_eq_offset, add_eq_offset, offset_comm]

theorem offset_zero (a : Address) : a.offset 0 = a := by
  rw [← Int.natCast_zero, ← add_eq_offset, add_zero]

/-- A move back undoes one forth. -/
theorem offset_neg (a : Address) (d : Int) : (a.offset d).offset (-d) = a := by
  rw [offset_offset, Int.add_right_neg, offset_zero]

theorem offset_inj {a b : Address} {d : Int} : a.offset d = b.offset d ↔ a = b := by
  constructor
  · intro h
    rw [← offset_neg a d, h, offset_neg]
  · rintro rfl
    rfl

/-! ## Alignment -/

/-- A multiple of the alignment that does not go around leaves an address as aligned as it was. -/
theorem isAligned_offset {a : Address} {d : Int} {n : Nat} (haligned : n ≤ 1 ∨ (n : Int) ∣ d)
    (ha : ((a.offset d).toNat : Int) = a.toNat + d) :
    (a.offset d).isAligned n = a.isAligned n := by
  rcases haligned with hone | hdvd
  · simp [isAligned, hone]
  · have hsame : (a.offset d).toNat % n = 0 ↔ a.toNat % n = 0 := by
      rw [← Nat.dvd_iff_mod_eq_zero, ← Nat.dvd_iff_mod_eq_zero, ← Int.natCast_dvd_natCast, ha,
        Int.dvd_add_left hdvd, Int.natCast_dvd_natCast]
    simp [isAligned, Bool.beq_eq_decide_eq, hsame]

/-! ## Increasing addresses -/

/-- The first of increasing addresses is the least. -/
theorem head?_eq_some_iff {l : List Address} (h : l.Pairwise (· < ·)) {a : Address} :
    l.head? = some a ↔ a ∈ l ∧ ∀ b ∈ l, a ≤ b := by
  cases l with
  | nil => simp
  | cons x rest =>
    have hbehind := (List.pairwise_cons.1 h).1
    rw [List.head?_cons, Option.some_inj]
    constructor
    · intro hx
      subst hx
      refine ⟨List.mem_cons_self, ?_⟩
      intro b hb
      rcases List.mem_cons.1 hb with rfl | hmem
      · exact Nat.le_refl _
      · exact Nat.le_of_lt (hbehind b hmem)
    · intro hleast
      rcases List.mem_cons.1 hleast.1 with rfl | hmem
      · rfl
      · -- Nothing behind the first is as low as it.
        have hle : a.toNat ≤ x.toNat := hleast.2 x List.mem_cons_self
        exact absurd hle (Nat.not_le_of_lt (hbehind a hmem))

end CodeSurvey.Address
