import CodeSurvey.Json.Record
import CodeSurvey.Proofs.Encoding.Reading
import CodeSurvey.Proofs.Text.Trimming

/-!
# Natural numbers in a JSON text

A natural number is read from the digits that it is written with, and from no others: no sign, no
zero in front, no decimal point and no exponent.

* `Json.IsInteger ds` : digits, without a zero in front of others;
* `Json.toDigits_decimal`, `isInteger_toDigits` : they are those that numbers are written with;
* `Json.EndsNumber rest` : the number in front of the text does not go on in it;
* `Json.readNumber_eq_natural_iff` : the text of a natural number;
* `Json.readUnsigned_eq_ok_iff` : the same behind blanks, for a number below a limit.
-/

namespace CodeSurvey.Json

variable {onEnd : Cause} {cs ds rest : List Char} {n : Nat}

/-! ## Digits -/

theorem isDigit_iff {c : Char} : isDigit c = true ↔ 48 ≤ c.toNat ∧ c.toNat ≤ 57 := by
  rw [isDigit, Bool.and_eq_true, decide_eq_true_iff, decide_eq_true_iff]
  exact Iff.rfl

/-- At least one digit, and a zero in front only if it is the only one. -/
structure IsInteger (ds : List Char) : Prop where
  digits : ∀ c ∈ ds, isDigit c = true
  ne_nil : ds ≠ []
  zero : ds.head? = some '0' → ds = ['0']

theorem decimal_toDigits (n : Nat) : decimal (Nat.toDigits 10 n) = n := by
  have hstep : appendDigit = fun n c => 10 * n + (c.toNat - '0'.toNat) := by
    funext n c
    rw [appendDigit, Nat.mul_comm]
  rw [decimal, hstep, ← Nat.ofDigitChars_eq_foldl, Nat.ofDigitChars_ten_toDigits]

/-- A digit is the one that its value is written with. -/
theorem digitChar_of_isDigit {c : Char} (h : isDigit c = true) :
    Nat.digitChar (c.toNat - 48) = c := by
  have hbounds := isDigit_iff.1 h
  apply Char.toNat_inj.1
  rw [Nat.toNat_digitChar_of_lt_ten (by omega)]
  omega

/-- Digits behind those of a number that is not zero are the last ones of a larger number. -/
theorem toDigits_foldl (hdigits : ∀ c ∈ ds, isDigit c = true) (hn : 0 < n) :
    Nat.toDigits 10 (ds.foldl appendDigit n) = Nat.toDigits 10 n ++ ds := by
  -- `n` stays above zero, as what is appended to zero would not be written behind it.
  induction ds generalizing n with
  | nil => rw [List.foldl_nil, List.append_nil]
  | cons c ds ih =>
    rw [List.forall_mem_cons] at hdigits
    have hbounds := isDigit_iff.1 hdigits.1
    have hvalue : appendDigit n c = 10 * n + (c.toNat - 48) := by
      rw [appendDigit, Nat.mul_comm]
      rfl
    have hlast : Nat.toDigits 10 n ++ [c] = Nat.toDigits 10 (appendDigit n c) := by
      have hdigit : c.toNat - 48 < 10 := by omega
      rw [hvalue, ← Nat.toDigits_append_toDigits (by decide) hn hdigit,
        Nat.toDigits_of_lt_base hdigit, digitChar_of_isDigit hdigits.1]
    rw [List.foldl_cons, ih hdigits.2 (by omega), ← hlast, List.append_assoc, List.singleton_append]

/-- Digits without a zero in front are those that their value is written with. -/
theorem toDigits_decimal (h : IsInteger ds) : Nat.toDigits 10 (decimal ds) = ds := by
  cases ds with
  | nil => exact absurd rfl h.ne_nil
  | cons c ds =>
    have hdigits := List.forall_mem_cons.1 h.digits
    have hbounds := isDigit_iff.1 hdigits.1
    by_cases hc : c = '0'
    · have hlone := h.zero (by rw [hc]; rfl)
      rw [hlone]
      rfl
    · have hpos : c.toNat ≠ 48 := fun heq => hc (Char.toNat_inj.1 heq)
      have hfirst : appendDigit 0 c = c.toNat - 48 := by
        rw [appendDigit, Nat.zero_mul, Nat.zero_add]
        rfl
      rw [decimal, List.foldl_cons, hfirst, toDigits_foldl hdigits.2 (by omega),
        Nat.toDigits_of_lt_base (by omega), digitChar_of_isDigit hdigits.1, List.singleton_append]

/-- Only zero is written with a zero in front. -/
theorem eq_zero_of_head?_toDigits {n : Nat} (h : (Nat.toDigits 10 n).head? = some '0') : n = 0 := by
  induction n using Nat.strongRecOn with
  | ind n ih =>
    rw [Nat.toDigits_eq_if (by decide)] at h
    split at h
    · next hlt =>
      have hsmall : ∀ k < 10, [Nat.digitChar k].head? = some '0' → k = 0 := by decide
      exact hsmall n hlt h
    · next hge =>
      -- What stands in front of the last digit is the number without it, which is not zero.
      cases hfront : Nat.toDigits 10 (n / 10) with
      | nil => exact absurd hfront Nat.toDigits_ne_nil
      | cons c tail =>
        rw [hfront, List.cons_append, List.head?_cons] at h
        have hzero := ih (n / 10) (by omega) (by rw [hfront, List.head?_cons, h])
        omega

theorem isInteger_toDigits (n : Nat) : IsInteger (Nat.toDigits 10 n) := by
  constructor
  case digits =>
    intro c hc
    exact isDigit_iff.2 (Char.isDigit_iff_toNat.1
      (Nat.isDigit_of_mem_toDigits (by decide) (by decide) hc))
  case ne_nil => exact Nat.toDigits_ne_nil
  case zero =>
    intro hzero
    rw [eq_zero_of_head?_toDigits hzero]
    rfl

/-! ## Parts of a number -/

/-- The number in front of the text does not go on in it. -/
def EndsNumber (rest : List Char) : Prop :=
  ∀ c ∈ rest.head?, isDigit c = false ∧ c ≠ '.' ∧ c ≠ 'e' ∧ c ≠ 'E'

/-- Digits are read as far as they go. -/
theorem readDigits_eq_ok_iff :
    readDigits onEnd cs = .ok (ds, rest) ↔
      ds ≠ [] ∧ cs = ds ++ rest ∧ (∀ c ∈ ds, isDigit c = true) ∧
        ∀ c ∈ rest.head?, isDigit c = false := by
  rw [← Text.span_eq_iff]
  cases cs with
  | nil =>
    rw [readDigits, fail]
    refine iff_of_false (by simp) ?_
    rintro ⟨hne, hds, _⟩
    exact hne hds.symm
  | cons c cs =>
    cases hc : isDigit c with
    | false =>
      rw [readDigits, if_neg (by simp [hc]), failAt]
      refine iff_of_false (by simp) ?_
      rintro ⟨hne, hds, _⟩
      rw [List.takeWhile_cons_of_neg (by simp [hc])] at hds
      exact hne hds.symm
    | true =>
      rw [readDigits, if_pos hc, List.takeWhile_cons_of_pos hc, List.dropWhile_cons_of_pos hc,
        Except.ok.injEq, Prod.mk.injEq]
      constructor
      · rintro ⟨rfl, hrest⟩
        exact ⟨List.cons_ne_nil _ _, rfl, hrest⟩
      · rintro ⟨_, hds, hrest⟩
        exact ⟨hds, hrest⟩

/-- Nothing is read behind a zero in front. -/
theorem IsInteger.eq_of_zero (h : IsInteger ds) (hcut : '0' :: cs = ds ++ rest) :
    ds = ['0'] ∧ rest = cs := by
  have hhead : ds.head? = some '0' := by
    have hwhole := congrArg List.head? hcut
    rw [List.head?_cons, List.head?_append] at hwhole
    cases ds with
    | nil => exact absurd rfl h.ne_nil
    | cons c ds => exact hwhole.symm
  have hlone := h.zero hhead
  rw [hlone, List.singleton_append, List.cons.injEq] at hcut
  exact ⟨hlone, hcut.2.symm⟩

theorem isInteger_zero : IsInteger ['0'] :=
  ⟨List.forall_mem_singleton.2 rfl, List.cons_ne_nil _ _, fun _ => rfl⟩

theorem readIntegerDigits_eq_ok_iff :
    readIntegerDigits onEnd cs = .ok (ds, rest) ↔
      IsInteger ds ∧ cs = ds ++ rest ∧ ∀ c ∈ rest.head?, isDigit c = false := by
  unfold readIntegerDigits
  split
  · next c cs =>
    cases hc : isDigit c with
    | true =>
      rw [if_pos rfl, failAt]
      refine iff_of_false (by simp) ?_
      rintro ⟨hds, hcut, hrest⟩
      rcases hds.eq_of_zero hcut with ⟨_, rfl⟩
      have hnot := hrest c rfl
      rw [hc] at hnot
      cases hnot
    | false =>
      rw [if_neg (by simp), Except.ok.injEq, Prod.mk.injEq]
      constructor
      · rintro ⟨rfl, rfl⟩
        exact ⟨isInteger_zero, rfl, by simp [hc]⟩
      · rintro ⟨hds, hcut, _⟩
        rcases hds.eq_of_zero hcut with ⟨rfl, rfl⟩
        exact ⟨rfl, rfl⟩
  · next cs hzero =>
    rw [readDigits_eq_ok_iff]
    constructor
    · rintro ⟨hne, rfl, hdigits, hrest⟩
      refine ⟨⟨hdigits, hne, ?_⟩, rfl, hrest⟩
      -- A zero in front has nothing behind it here.
      intro hhead
      rcases List.head?_eq_some_iff.1 hhead with ⟨ds, rfl⟩
      cases ds with
      | nil => rfl
      | cons c ds => exact absurd rfl (hzero c (ds ++ rest))
    · rintro ⟨hds, hcut, hrest⟩
      exact ⟨hds.ne_nil, hcut, hds.digits, hrest⟩

theorem readFraction_eq_nil_iff :
    readFraction onEnd cs = .ok ([], rest) ↔ rest = cs ∧ cs.head? ≠ some '.' := by
  unfold readFraction
  split
  · next cs =>
    refine iff_of_false ?_ fun h => h.2 rfl
    intro hdigits
    exact (readDigits_eq_ok_iff.1 hdigits).1 rfl
  · next _ hpoint =>
    have hhead : cs.head? ≠ some '.' := by
      intro hhead
      rcases List.head?_eq_some_iff.1 hhead with ⟨behind, rfl⟩
      exact hpoint behind rfl
    rw [Except.ok.injEq, Prod.mk.injEq]
    constructor
    · rintro ⟨_, rfl⟩
      exact ⟨rfl, hhead⟩
    · rintro ⟨rfl, _⟩
      exact ⟨rfl, rfl⟩

theorem readExponent_eq_none_iff :
    readExponent onEnd cs = .ok (none, rest) ↔
      rest = cs ∧ ∀ c ∈ cs.head?, c ≠ 'e' ∧ c ≠ 'E' := by
  cases cs with
  | nil =>
    rw [readExponent, Except.ok.injEq, Prod.mk.injEq]
    simp [eq_comm]
  | cons c cs =>
    have hbehind (negative : Bool) (ds : List Char) :
        (readDigits onEnd ds).map (fun p => (some (Exponent.mk negative p.1), p.2)) ≠
          .ok (none, rest) := by
      cases readDigits onEnd ds <;> simp [Except.map]
    by_cases hmark : c = 'e' ∨ c = 'E'
    · rw [readExponent, if_pos hmark]
      refine iff_of_false ?_ ?_
      · simp only
        split
        · exact hbehind true _
        · exact hbehind false _
        · exact hbehind false _
      · rintro ⟨_, hhead⟩
        rcases hmark with rfl | rfl
        · exact (hhead 'e' rfl).1 rfl
        · exact (hhead 'E' rfl).2 rfl
    · rw [readExponent, if_neg hmark, Except.ok.injEq, Prod.mk.injEq]
      rw [not_or] at hmark
      constructor
      · rintro ⟨_, rfl⟩
        refine ⟨rfl, ?_⟩
        rintro _ ⟨⟩
        exact hmark
      · rintro ⟨rfl, _⟩
        exact ⟨rfl, rfl⟩

/-! ## Natural numbers -/

/-- A number without a fraction and an exponent is all of its digits. -/
theorem readLiteral_eq_integer_iff {negative negative' : Bool} :
    readLiteral onEnd negative cs = .ok (⟨negative', ds, [], none⟩, rest) ↔
      negative' = negative ∧ IsInteger ds ∧ cs = ds ++ rest ∧ EndsNumber rest := by
  constructor
  · intro h
    rcases Except.bind_eq_ok_iff.1 h with ⟨⟨whole, r₁⟩, hwhole, h⟩
    rcases Except.bind_eq_ok_iff.1 h with ⟨⟨fraction, r₂⟩, hfraction, h⟩
    rcases Except.bind_eq_ok_iff.1 h with ⟨⟨exponent, r₃⟩, hexponent, hresult⟩
    cases hresult
    rcases readIntegerDigits_eq_ok_iff.1 hwhole with ⟨hds, hcut, hdigit⟩
    rcases readFraction_eq_nil_iff.1 hfraction with ⟨rfl, hpoint⟩
    rcases readExponent_eq_none_iff.1 hexponent with ⟨rfl, hmark⟩
    refine ⟨rfl, hds, hcut, ?_⟩
    intro c hc
    refine ⟨hdigit c hc, ?_, hmark c hc⟩
    rintro rfl
    exact hpoint hc
  · rintro ⟨rfl, hds, hcut, hrest⟩
    have hwhole : readIntegerDigits onEnd cs = .ok (ds, rest) :=
      readIntegerDigits_eq_ok_iff.2 ⟨hds, hcut, fun c hc => (hrest c hc).1⟩
    have hfraction : readFraction onEnd rest = .ok ([], rest) :=
      readFraction_eq_nil_iff.2 ⟨rfl, fun hc => (hrest '.' hc).2.1 rfl⟩
    have hexponent : readExponent onEnd rest = .ok (none, rest) :=
      readExponent_eq_none_iff.2 ⟨rfl, fun c hc => (hrest c hc).2.2⟩
    rw [readLiteral, hwhole]
    show (readFraction onEnd rest >>= _) = _
    rw [hfraction]
    show (readExponent onEnd rest >>= _) = _
    rw [hexponent]
    rfl

/-- A number is natural if it is written as digits alone and is a 64-bit word. -/
theorem ofLiteral?_eq_natural_iff {l : Literal} :
    Number.ofLiteral? l = some (.natural n) ↔
      l = ⟨false, l.whole, [], none⟩ ∧ decimal l.whole = n ∧ n < 1 <<< 64 := by
  have hinteger : (l.isInteger && !l.negative) = true ↔ l = ⟨false, l.whole, [], none⟩ := by
    rcases l with ⟨negative, whole, fraction, exponent⟩
    cases negative <;> cases fraction <;> cases exponent <;> simp [Literal.isInteger]
  rw [Number.ofLiteral?]
  split
  · next hnatural =>
    rw [Bool.and_eq_true, decide_eq_true_iff, hinteger] at hnatural
    rw [Option.some.injEq, Number.natural.injEq]
    constructor
    · rintro rfl
      exact ⟨hnatural.1, rfl, hnatural.2⟩
    · rintro ⟨_, hvalue, _⟩
      exact hvalue
  · next hnatural =>
    rw [Bool.and_eq_true, decide_eq_true_iff, hinteger] at hnatural
    refine iff_of_false ?_ ?_
    · split
      · simp
      · cases l.magnitude? <;> simp
    · rintro ⟨hl, rfl, hlt⟩
      exact hnatural ⟨hl, hlt⟩

/-- A number is a sign or none, and a literal that has a value. -/
theorem readNumber_eq_ok {number : Number} (h : readNumber cs = .ok (number, rest)) :
    ∃ negative behind l, readLiteral (.ended .value) negative behind = .ok (l, rest) ∧
      Number.ofLiteral? l = some number ∧ (negative = false → behind = cs) := by
  unfold readNumber at h
  split at h
  · next behind =>
    rcases Except.bind_eq_ok_iff.1 h with ⟨⟨l, r⟩, hl, h⟩
    simp only at h
    split at h
    · next hn =>
      cases h
      exact ⟨true, behind, l, hl, hn, fun h => by cases h⟩
    · cases h
  · rcases Except.bind_eq_ok_iff.1 h with ⟨⟨l, r⟩, hl, h⟩
    simp only at h
    split at h
    · next hn =>
      cases h
      exact ⟨false, cs, l, hl, hn, fun _ => rfl⟩
    · cases h

theorem readNumber_of_digit {c : Char} {l : Literal} {number : Number} (hc : isDigit c = true)
    (hl : readLiteral (.ended .value) false (c :: cs) = .ok (l, rest))
    (hn : Number.ofLiteral? l = some number) : readNumber (c :: cs) = .ok (number, rest) := by
  unfold readNumber
  split
  · next hsign =>
    cases hsign
    exact absurd hc (by decide)
  · rw [hl]
    simp only [bind, Except.bind, hn]
    rfl

theorem exists_cons_toDigits (n : Nat) :
    ∃ c ds, Nat.toDigits 10 n = c :: ds ∧ isDigit c = true := by
  have hds := isInteger_toDigits n
  cases hcut : Nat.toDigits 10 n with
  | nil => exact absurd hcut hds.ne_nil
  | cons c ds => exact ⟨c, ds, rfl, hds.digits c (hcut ▸ List.mem_cons_self)⟩

theorem readNumber_eq_natural_iff :
    readNumber cs = .ok (.natural n, rest) ↔
      n < 1 <<< 64 ∧ cs = Nat.toDigits 10 n ++ rest ∧ EndsNumber rest := by
  constructor
  · intro h
    rcases readNumber_eq_ok h with ⟨negative, behind, l, hl, hn, hunsigned⟩
    -- A sign is not part of the literal, but one with a sign has no natural value.
    rcases ofLiteral?_eq_natural_iff.1 hn with ⟨hplain, rfl, hlt⟩
    rw [hplain] at hl
    rcases readLiteral_eq_integer_iff.1 hl with ⟨hsign, hds, hcut, hrest⟩
    rw [toDigits_decimal hds, ← hunsigned hsign.symm]
    exact ⟨hlt, hcut, hrest⟩
  · rintro ⟨hlt, rfl, hrest⟩
    rcases exists_cons_toDigits n with ⟨c, ds, hcut, hc⟩
    have hl : readLiteral (.ended .value) false (Nat.toDigits 10 n ++ rest) =
        .ok (⟨false, Nat.toDigits 10 n, [], none⟩, rest) :=
      readLiteral_eq_integer_iff.2 ⟨rfl, isInteger_toDigits n, rfl, hrest⟩
    have hn : Number.ofLiteral? ⟨false, Nat.toDigits 10 n, [], none⟩ = some (.natural n) :=
      ofLiteral?_eq_natural_iff.2 ⟨rfl, decimal_toDigits n, hlt⟩
    rw [hcut] at hl hn ⊢
    exact readNumber_of_digit hc hl hn

theorem refuse_ne_ok {α : Type} {expected : String} {a : α} : refuse expected cs ≠ .ok a := by
  intro h
  unfold refuse at h
  split at h
  · cases h
  · rcases Except.bind_eq_ok_iff.1 h with ⟨_, _, h⟩
    cases h
  · rcases Except.bind_eq_ok_iff.1 h with ⟨_, _, h⟩
    cases h
  · rcases Except.bind_eq_ok_iff.1 h with ⟨_, _, h⟩
    cases h
  · rcases Except.bind_eq_ok_iff.1 h with ⟨_, _, h⟩
    cases h
  · cases h
  · cases h
  · split at h
    · rcases Except.bind_eq_ok_iff.1 h with ⟨_, _, h⟩
      cases h
    · cases h

/-- A natural number below a limit is read behind blanks, and nothing else is one. -/
theorem readUnsigned_eq_ok_iff {limit : Nat} {expected : String} (hlimit : limit ≤ 1 <<< 64) :
    readUnsigned limit expected cs = .ok (n, rest) ↔
      n < limit ∧ skipBlanks cs = Nat.toDigits 10 n ++ rest ∧ EndsNumber rest := by
  constructor
  · intro h
    unfold readUnsigned at h
    split at h
    · cases h
    · next c behind hskip =>
      split at h
      · rcases Except.bind_eq_ok_iff.1 h with ⟨⟨number, r⟩, hnumber, h⟩
        simp only at h
        split at h
        · next m =>
          split at h
          · next hlt =>
            cases h
            rw [hskip]
            exact ⟨hlt, (readNumber_eq_natural_iff.1 hnumber).2⟩
          · cases h
        · cases h
        · cases h
      · exact absurd h refuse_ne_ok
  · rintro ⟨hlt, hskip, hrest⟩
    rcases exists_cons_toDigits n with ⟨c, ds, hcut, hc⟩
    have hnumber : readNumber (skipBlanks cs) = .ok (.natural n, rest) :=
      readNumber_eq_natural_iff.2 ⟨Nat.lt_of_lt_of_le hlt hlimit, hskip, hrest⟩
    rw [hskip, hcut, List.cons_append] at hnumber
    unfold readUnsigned
    rw [hskip, hcut]
    simp only [List.cons_append, hc, or_true, if_true]
    rw [hnumber]
    simp only [bind, Except.bind, hlt, if_true]

end CodeSurvey.Json
