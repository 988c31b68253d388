import CodeSurvey.Proofs.Encoding.Reading
import CodeSurvey.Text.Hex
import CodeSurvey.Text.Numeral
import Mathlib.Data.List.Forall2
import Mathlib.Data.Nat.Digits.Defs

/-!
# What a numeral is

The numerals of a base up to sixteen: one or more digits, letters in either case, with a plus sign
in front or none. The reader takes these and no others, as long as their value stays below its
limit; it does not matter that it looks at the limit after every digit. The digits that a number is
written with are such a numeral, also in upper case and with zeros in front.

* `Text.IsDigit base c d` : the character `c` is the digit that counts `d`;
* `Text.IsDigits`, `IsNumeral` : digits with their value, and the same behind a sign or none;
* `Text.readNumeral_eq_ok_iff` : the texts that are read as a number;
* `Text.isDigits_toDigits`, `IsDigits.upper`, `IsDigits.zeros` : those that numbers are written with.
-/

namespace CodeSurvey.Text

variable {base limit acc n d : Nat} {c : Char} {cs : List Char} {ds : List Nat}

/-! ## Grammar -/

/-- The digit of a number below the base, in either case. -/
def IsDigit (base : Nat) (c : Char) (d : Nat) : Prop :=
  d < base ∧ (c = Nat.digitChar d ∨ c = (Nat.digitChar d).toUpper)

/-- One or more digits, the first of which counts most. -/
def IsDigits (base : Nat) (cs : List Char) (n : Nat) : Prop :=
  cs ≠ [] ∧ ∃ ds, List.Forall₂ (IsDigit base) cs ds ∧ Nat.ofDigits base ds.reverse = n

inductive IsNumeral (base : Nat) : List Char → Nat → Prop
  | plain {cs : List Char} {n : Nat} (digits : IsDigits base cs n) : IsNumeral base cs n
  | signed {cs : List Char} {n : Nat} (digits : IsDigits base cs n) : IsNumeral base ('+' :: cs) n

/-! ## Digits -/

theorem toNat_digitChar (h : d < 16) :
    (Nat.digitChar d).toNat = if d < 10 then 48 + d else 87 + d := by
  revert d
  decide

theorem toNat_toUpper_digitChar (h : d < 16) :
    (Nat.digitChar d).toUpper.toNat = if d < 10 then 48 + d else 55 + d := by
  revert d
  decide

/-- The digits below ten come first, the letters in two other places. -/
theorem isDigit_iff_toNat (hbase : base ≤ 16) :
    IsDigit base c d ↔ d < base ∧
      (d < 10 ∧ c.toNat = 48 + d ∨ 10 ≤ d ∧ (c.toNat = 87 + d ∨ c.toNat = 55 + d)) := by
  refine and_congr_right fun hd => ?_
  rw [← Char.toNat_inj, ← Char.toNat_inj, toNat_digitChar (by omega),
    toNat_toUpper_digitChar (by omega)]
  split <;> omega

theorem digit?_eq_some_iff (hbase : base ≤ 16) : digit? base c = some d ↔ IsDigit base c d := by
  have hrange (lo hi : Char) : lo ≤ c ∧ c ≤ hi ↔ lo.toNat ≤ c.toNat ∧ c.toNat ≤ hi.toNat := Iff.rfl
  rw [isDigit_iff_toNat hbase]
  simp only [digit?, hrange, Char.reduceToNat, Option.ite_none_right_eq_some, Option.some.injEq]
  -- The three ranges are those of the digits below ten, of the small letters and of the capitals.
  split
  · omega
  · split
    · omega
    · split <;> omega

/-! ## Reading -/

/-- The number whose digits are those of `acc` and then some others. -/
def extend (base acc : Nat) (ds : List Nat) : Nat :=
  ds.foldl (fun n d => n * base + d) acc

theorem extend_eq (base acc : Nat) (ds : List Nat) :
    extend base acc ds = acc * base ^ ds.length + Nat.ofDigits base ds.reverse := by
  induction ds generalizing acc with
  | nil => simp [extend]
  | cons d ds ih =>
    have hstep : extend base acc (d :: ds) = extend base (acc * base + d) ds := rfl
    rw [hstep, ih, Nat.ofDigits_reverse_cons, List.length_cons, Nat.pow_succ, Nat.add_mul]
    grind

/-- More digits make no number smaller. -/
theorem le_extend (hpos : 0 < base) (acc : Nat) (ds : List Nat) : acc ≤ extend base acc ds := by
  rw [extend_eq]
  exact Nat.le_add_right_of_le (Nat.le_mul_of_pos_right acc (Nat.pow_pos hpos))

/-- The limit holds for what has been read so far if it holds in the end. -/
theorem readDigits_eq_ok_iff (hpos : 0 < base) (hbase : base ≤ 16) :
    readDigits base limit acc cs = .ok n ↔
      ∃ ds, List.Forall₂ (IsDigit base) cs ds ∧ extend base acc ds = n ∧ (cs = [] ∨ n < limit) := by
  induction cs generalizing acc with
  | nil =>
    simp only [readDigits, Except.ok.injEq, List.forall₂_nil_left_iff, true_or, and_true,
      exists_eq_left]
    exact Iff.rfl
  | cons c cs ih =>
    simp only [List.forall₂_cons_left_iff, ← digit?_eq_some_iff hbase, reduceCtorEq, false_or]
    rw [readDigits]
    cases hc : digit? base c with
    | none => simp
    | some d =>
      have hmore (ds : List Nat) : extend base acc (d :: ds) = extend base (acc * base + d) ds :=
        rfl
      simp only
      split
      · next hlt =>
        rw [ih]
        constructor
        · rintro ⟨ds, hds, rfl, hlimit⟩
          refine ⟨d :: ds, ⟨d, ds, rfl, hds, rfl⟩, hmore ds, ?_⟩
          rcases hlimit with rfl | hlimit
          · cases hds
            exact hlt
          · exact hlimit
        · rintro ⟨_, ⟨_, ds, ⟨⟩, hds, rfl⟩, rfl, hlimit⟩
          exact ⟨ds, hds, (hmore ds).symm, .inr hlimit⟩
      · next hge =>
        refine iff_of_false (by simp) ?_
        rintro ⟨_, ⟨_, ds, ⟨⟩, _, rfl⟩, rfl, hlimit⟩
        have hle := le_extend hpos (acc * base + d) ds
        rw [hmore] at hlimit
        omega

theorem readDigits_eq_ok_iff_isDigits (hpos : 0 < base) (hbase : base ≤ 16) (hne : cs ≠ []) :
    readDigits base limit 0 cs = .ok n ↔ IsDigits base cs n ∧ n < limit := by
  have hvalue (ds : List Nat) : extend base 0 ds = Nat.ofDigits base ds.reverse := by
    rw [extend_eq, Nat.zero_mul, Nat.zero_add]
  simp only [readDigits_eq_ok_iff hpos hbase, IsDigits, hvalue, hne, ne_eq, not_false_eq_true,
    true_and, false_or]
  constructor
  · rintro ⟨ds, hds, hn, hlimit⟩
    exact ⟨⟨ds, hds, hn⟩, hlimit⟩
  · rintro ⟨⟨ds, hds, hn⟩, hlimit⟩
    exact ⟨ds, hds, hn, hlimit⟩

/-- No numeral has its sign in front of another one. -/
theorem not_isDigits_plus (hbase : base ≤ 16) : ¬IsDigits base ('+' :: cs) n := by
  rintro ⟨_, ds, hds, _⟩
  rcases List.forall₂_cons_left_iff.1 hds with ⟨d, _, hd, _⟩
  have hcode := (isDigit_iff_toNat hbase).1 hd
  have hplus : '+'.toNat = 43 := rfl
  omega

/-- What is read as a numeral below a limit. -/
theorem readNumeral_eq_ok_iff (hpos : 0 < base) (hbase : base ≤ 16) :
    readNumeral base limit cs = .ok n ↔ IsNumeral base cs n ∧ n < limit := by
  unfold readNumeral
  split
  · refine iff_of_false (by simp) ?_
    rintro ⟨⟨hdigits⟩, _⟩
    exact hdigits.1 rfl
  · refine iff_of_false (by simp) ?_
    rintro ⟨hnumeral, _⟩
    cases hnumeral with
    | plain hdigits => exact not_isDigits_plus hbase hdigits
    | signed hdigits => exact hdigits.1 rfl
  · next cs hsome =>
    have hne : cs ≠ [] := fun hnil => hsome hnil
    rw [readDigits_eq_ok_iff_isDigits hpos hbase hne]
    refine and_congr_left fun _ => ⟨.signed, fun hnumeral => ?_⟩
    cases hnumeral with
    | plain hdigits => exact absurd hdigits (not_isDigits_plus hbase)
    | signed hdigits => exact hdigits
  · next cs hne _ hsign =>
    rw [readDigits_eq_ok_iff_isDigits hpos hbase hne]
    refine and_congr_left fun _ => ⟨.plain, fun hnumeral => ?_⟩
    cases hnumeral with
    | plain hdigits => exact hdigits
    | signed hdigits => exact absurd rfl (hsign _)

/-! ## Written digits -/

theorem isDigit_digitChar (h : d < base) : IsDigit base (Nat.digitChar d) d :=
  ⟨h, .inl rfl⟩

/-- One more digit at the end. -/
theorem IsDigits.append (h : IsDigits base cs n) (hd : IsDigit base c d) :
    IsDigits base (cs ++ [c]) (n * base + d) := by
  rcases h with ⟨_, ds, hds, rfl⟩
  refine ⟨by simp, ds ++ [d], List.rel_append hds (.cons hd .nil), ?_⟩
  rw [List.reverse_append, List.reverse_singleton, List.singleton_append, Nat.ofDigits_cons,
    Nat.mul_comm, Nat.add_comm]

theorem isDigits_toDigits (hbase : 1 < base) (n : Nat) : IsDigits base (Nat.toDigits base n) n := by
  induction n using Nat.strongRecOn with
  | ind n ih =>
    rw [Nat.toDigits_eq_if hbase]
    split
    · next hlt => exact ⟨by simp, [n], .cons (isDigit_digitChar hlt) .nil, by simp⟩
    · next hge =>
      have hpos : 0 < n := by omega
      have hfront := ih (n / base) (Nat.div_lt_self hpos hbase)
      have hlast := hfront.append (isDigit_digitChar (Nat.mod_lt n (by omega)))
      rwa [Nat.div_add_mod'] at hlast

/-- Capitals count as much as small letters. -/
theorem IsDigits.upper (hbase : base ≤ 16) (h : IsDigits base cs n) :
    IsDigits base (cs.map Char.toUpper) n := by
  have htwice : ∀ d < 16, (Nat.digitChar d).toUpper.toUpper = (Nat.digitChar d).toUpper := by decide
  rcases h with ⟨hne, ds, hds, hn⟩
  refine ⟨by simpa using hne, ds, ?_, hn⟩
  rw [List.forall₂_map_left_iff]
  refine hds.imp fun c d hd => ⟨hd.1, .inr ?_⟩
  rcases hd.2 with rfl | rfl
  · rfl
  · exact htwice d (Nat.lt_of_lt_of_le hd.1 hbase)

/-- Zeros in front count nothing. -/
theorem IsDigits.zeros (hpos : 0 < base) (h : IsDigits base cs n) (k : Nat) :
    IsDigits base (List.replicate k '0' ++ cs) n := by
  induction k with
  | zero => exact h
  | succ k ih =>
    rcases ih with ⟨_, ds, hds, hn⟩
    refine ⟨by simp [List.replicate_succ], 0 :: ds, ?_, ?_⟩
    · rw [List.replicate_succ, List.cons_append]
      exact .cons (isDigit_digitChar hpos) hds
    · rw [Nat.ofDigits_reverse_zero_cons, hn]

end CodeSurvey.Text
