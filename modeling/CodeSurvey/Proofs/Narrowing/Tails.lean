import CodeSurvey.Proofs.Narrowing.Chains

/-!
# Tails and windows to the last address

Everything from an address on can be had as a tail, or as a window whose end is the last address
there is. The window moves its start into the code. The tail does not: from an address below the
code nothing is left, although all of the code lies behind that address. From everywhere else the
two hold the same bytes.

* `Code.read?_window`, `Code.read?_tailFrom` : what can be read in a window and in a tail;
* `Code.read?_eq_none` : nothing can be read outside of the code;
* `Code.tailFrom_eq_window_iff` : from where the two hold the same.
-/

namespace CodeSurvey

/-- The highest address. -/
def Address.last : Address :=
  .ofNat 0xffffffffffffffff

namespace Code

variable {c d : Code} {a b start stop : Address}

/-! ## Reading -/

theorem read?_eq_none (h : c.contains a = false) : c.read? a = none := by
  rw [read?, bytesFrom?_of_not_contains h, Option.bind_none]

theorem read?_window (h : c.subrange start stop = .ok d) (b : Address) :
    d.read? b = if start ≤ b ∧ b < stop then c.read? b else none := by
  apply Option.ext
  intro x
  have hwindow : d.read? b = some x ↔ c.read? b = some x ∧ start ≤ b ∧ b < stop :=
    read?_window_iff h
  rw [hwindow, and_comm, Option.ite_none_right_eq_some]

/-- The end of the code is an address, so nothing of it lies at the last one. -/
theorem lt_last_of_contains (h : c.contains a = true) : a < Address.last := by
  have hend := c.fits
  have hin := (c.contains_iff a).1 h
  have hlast : Address.last.toNat = 2 ^ 64 - 1 := rfl
  rw [Address.lt_iff]
  omega

/-- A window that goes on to the last address has an end only at the end of the code. -/
theorem read?_window_last (h : c.subrange a .last = .ok d) (b : Address) :
    d.read? b = if a ≤ b then c.read? b else none := by
  rw [read?_window h b]
  cases hin : c.contains b with
  | true =>
    have hbelow := lt_last_of_contains hin
    simp only [hbelow, and_true]
  | false => rw [read?_eq_none hin, ite_self, ite_self]

theorem read?_tailFrom (c : Code) (a b : Address) :
    (c.tailFrom a).read? b = if c.base ≤ a ∧ a ≤ b then c.read? b else none := by
  apply Option.ext
  intro x
  rw [read?_eq_some_iff, holds_tailFrom_iff (List.cons_ne_nil x []), Option.ite_none_right_eq_some,
    read?_eq_some_iff, and_comm]
  refine and_congr_left fun hholds => ?_
  -- What starts no later than a byte of the code does not start behind the code.
  have hin := (c.contains_iff b).1 (contains_iff_holds.2 ⟨x, hholds⟩)
  rw [contains_iff, Address.le_iff, Address.le_iff]
  omega

theorem read?_base_isSome (h : c.bytes ≠ []) : (c.read? c.base).isSome = true := by
  have hpos := List.length_pos_iff.2 h
  have hin : c.contains c.base = true := (c.contains_iff c.base).2 (by omega)
  rcases contains_iff_holds.1 hin with ⟨x, hx⟩
  rw [read?_eq_some_iff.2 hx, Option.isSome_some]

/-! ## Comparison -/

/-- From any address on there is a window to the last address, with everything that the code has
there. The tail has that too if it does not start below the code. From below the code the tail has
nothing, so that it differs from the window unless the code has no bytes. -/
theorem tailFrom_eq_window_iff (c : Code) (a : Address) :
    ∃ d, c.subrange a .last = .ok d ∧
      (∀ b, d.read? b = if a ≤ b then c.read? b else none) ∧
      (∀ b, (c.tailFrom a).read? b = if c.base ≤ a ∧ a ≤ b then c.read? b else none) ∧
      ((∀ b, (c.tailFrom a).read? b = d.read? b) ↔ c.base ≤ a ∨ c.bytes = []) := by
  have hlast : a ≤ Address.last := Nat.le_of_lt_succ a.toNat_lt
  rcases c.exists_subrange hlast with ⟨d, hd⟩
  have hwindow := read?_window_last hd
  refine ⟨d, hd, hwindow, c.read?_tailFrom a, ?_⟩
  constructor
  · intro hsame
    by_cases hempty : c.bytes = []
    · exact .inr hempty
    · refine .inl (Nat.le_of_not_lt fun hbelow => ?_)
      -- The first byte lies in the window, but not in the tail.
      have hfirst := hsame c.base
      have habove : a ≤ c.base := Nat.le_of_lt hbelow
      have hout : ¬(c.base ≤ a ∧ a ≤ c.base) := fun h => Nat.not_le_of_lt hbelow h.1
      rw [read?_tailFrom, if_neg hout, hwindow, if_pos habove] at hfirst
      have hsome := read?_base_isSome hempty
      rw [← hfirst] at hsome
      cases hsome
  · intro hcase b
    rw [read?_tailFrom, hwindow]
    rcases hcase with habove | hempty
    · simp only [habove, true_and]
    · have hnone : c.read? b = none := by
        apply read?_eq_none
        rw [Bool.eq_false_iff]
        intro hin
        have hbounds := (c.contains_iff b).1 hin
        rw [hempty, List.length_nil] at hbounds
        omega
      rw [hnone, ite_self, ite_self]

/-- From the address in front of the code the window has all of its bytes, and the tail none. -/
theorem tailFrom_below :
    framedReturn.subrange (.ofNat 0xfff) .last = .ok framedReturn ∧
      Address.ofNat 0xfff ≤ .ofNat 0x1000 ∧
      framedReturn.read? (.ofNat 0x1000) = some 0x55 ∧
      (framedReturn.tailFrom (.ofNat 0xfff)).read? (.ofNat 0x1000) = none := by
  exact ⟨rfl, by decide, rfl, rfl⟩

end Code

end CodeSurvey
