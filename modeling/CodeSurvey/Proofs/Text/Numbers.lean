import CodeSurvey.Address.Basic
import CodeSurvey.Insn.Listing
import CodeSurvey.Proofs.Text.Numerals
import CodeSurvey.Proofs.Text.Trimming
import CodeSurvey.Text.Number

/-!
# What a number text is

The numbers that a user can write, as a grammar of the trimmed text: decimal numerals, and those of
base sixteen behind a mark. Words are read from these, signed integers also from one behind a minus
sign. What is printed is among them, so that addresses and distances are read back from each of the
ways in which they are written.

* `Text.IsMagnitude`, `IsSigned` : the grammar, with the value of a text;
* `Text.readWord_eq_ok_iff`, `readInteger_eq_ok_iff` : it is what is read;
* `Text.readWord_text`, `readInteger_toString`, `readInteger_wordHex` : what is printed is read
  back;
* `Text.numbers_of_texts` : all of it, for the trimmed text.
-/

namespace CodeSurvey.Text

variable {base n : Nat} {c : Char} {cs : List Char} {i : Int} {s : String}

/-! ## Grammar -/

/-- A decimal numeral, or one of base sixteen behind the mark for it. -/
inductive IsMagnitude : List Char → Nat → Prop
  | decimal {cs : List Char} {n : Nat} (numeral : IsNumeral 10 cs n) : IsMagnitude cs n
  | marked {x : Char} {cs : List Char} {n : Nat} (mark : x = 'x' ∨ x = 'X')
      (numeral : IsNumeral 16 cs n) : IsMagnitude ('0' :: x :: cs) n

/-- A word, which stands for the signed number of 64 bits that it is equal to modulo `2 ^ 64`, or a
number behind a minus sign. -/
inductive IsSigned : List Char → Int → Prop
  | word {cs : List Char} {n : Nat} {i : Int} (magnitude : IsMagnitude cs n) (below : n < 2 ^ 64)
      (low : -2 ^ 63 ≤ i) (high : i < 2 ^ 63) (wraps : i % 2 ^ 64 = n) : IsSigned cs i
  | negative {cs : List Char} {n : Nat} (magnitude : IsMagnitude cs n) (below : n ≤ 2 ^ 63) :
      IsSigned ('-' :: cs) (-n)

theorem IsDigits.isDigit_of_mem (h : IsDigits base cs n) (hc : c ∈ cs) : ∃ d, IsDigit base c d := by
  rcases h with ⟨_, ds, hds, _⟩
  clear * - hds hc
  induction hds with
  | nil => cases hc
  | cons hd _ ih =>
    rcases List.mem_cons.1 hc with rfl | hbehind
    · exact ⟨_, hd⟩
    · exact ih hbehind

theorem IsNumeral.isDigit_of_mem (h : IsNumeral base cs n) (hc : c ∈ cs) :
    c = '+' ∨ ∃ d, IsDigit base c d := by
  cases h with
  | plain digits => exact .inr (digits.isDigit_of_mem hc)
  | signed digits => exact (List.mem_cons.1 hc).imp id fun hbehind => digits.isDigit_of_mem hbehind

/-- The mark of base sixteen is no decimal digit. -/
theorem not_isNumeral_of_mark {x : Char} (hx : x = 'x' ∨ x = 'X') :
    ¬IsNumeral 10 ('0' :: x :: cs) n := by
  intro h
  have hmark := h.isDigit_of_mem (List.mem_cons_of_mem _ List.mem_cons_self)
  simp only [← digit?_eq_some_iff (show 10 ≤ 16 by decide)] at hmark
  rcases hx with rfl | rfl
  · exact absurd hmark (by simp [digit?])
  · exact absurd hmark (by simp [digit?])

theorem not_isMagnitude_minus : ¬IsMagnitude ('-' :: cs) n := by
  rintro ⟨hnumeral⟩
  have hminus := hnumeral.isDigit_of_mem List.mem_cons_self
  simp only [← digit?_eq_some_iff (show 10 ≤ 16 by decide)] at hminus
  exact absurd hminus (by simp [digit?])

/-! ## Reading -/

theorem readMagnitude_eq_ok_iff : readMagnitude cs = .ok n ↔ IsMagnitude cs n ∧ n < 2 ^ 64 := by
  have hmarked {x : Char} {cs : List Char} (hx : x = 'x' ∨ x = 'X') :
      readNumeral 16 (1 <<< 64) cs = .ok n ↔ IsMagnitude ('0' :: x :: cs) n ∧ n < 2 ^ 64 := by
    rw [readNumeral_eq_ok_iff (by decide) (by decide)]
    refine and_congr_left fun _ => ⟨.marked hx, fun hmagnitude => ?_⟩
    cases hmagnitude with
    | decimal numeral => exact absurd numeral (not_isNumeral_of_mark hx)
    | marked _ numeral => exact numeral
  unfold readMagnitude
  split
  · exact hmarked (.inl rfl)
  · exact hmarked (.inr rfl)
  · next cs hsmall hcapital =>
    rw [readNumeral_eq_ok_iff (by decide) (by decide)]
    refine and_congr_left fun _ => ⟨.decimal, fun hmagnitude => ?_⟩
    cases hmagnitude with
    | decimal numeral => exact numeral
    | marked mark _ =>
      rcases mark with rfl | rfl
      · exact absurd rfl (hsmall _)
      · exact absurd rfl (hcapital _)

/-- A word is read from the texts of numbers below `2 ^ 64`. -/
theorem readWord_eq_ok_iff {v : UInt64} :
    readWord s = .ok v ↔ IsMagnitude (trim s.toList) v.toNat := by
  rw [readWord]
  constructor
  · intro h
    split at h
    · next n hn =>
      cases h
      rcases readMagnitude_eq_ok_iff.1 hn with ⟨hmagnitude, hlt⟩
      have hvalue : (UInt64.ofNat n).toNat = n := UInt64.toNat_ofNat_of_lt' hlt
      rwa [hvalue]
    · cases h
  · intro hmagnitude
    rw [readMagnitude_eq_ok_iff.2 ⟨hmagnitude, v.toNat_lt⟩]
    exact congrArg Except.ok UInt64.ofNat_toNat

theorem bmod_word_eq_iff :
    Int.bmod n (1 <<< 64) = i ↔ -2 ^ 63 ≤ i ∧ i < 2 ^ 63 ∧ i % 2 ^ 64 = (n : Int) % 2 ^ 64 := by
  have hword : (1 <<< 64 : Nat) = 2 ^ 64 := rfl
  rw [hword, Int.bmod_eq_iff (by decide)]
  omega

theorem readInteger_eq_ok_iff : readInteger s = .ok i ↔ IsSigned (trim s.toList) i := by
  rw [readInteger]
  split
  · next ds hsign =>
    rw [hsign]
    constructor
    · intro h
      split at h
      · next n hn =>
        split at h
        · next hle =>
          cases h
          exact .negative (readMagnitude_eq_ok_iff.1 hn).1 hle
        · cases h
      · cases h
    · intro h
      cases h with
      | word magnitude => exact absurd magnitude not_isMagnitude_minus
      | @negative _ n magnitude below =>
        have hlt : n < 2 ^ 64 := Nat.lt_of_le_of_lt below (by decide)
        rw [readMagnitude_eq_ok_iff.2 ⟨magnitude, hlt⟩]
        exact if_pos below
  · next hplain =>
    constructor
    · intro h
      split at h
      · next n hn =>
        rcases readMagnitude_eq_ok_iff.1 hn with ⟨hmagnitude, hlt⟩
        rcases bmod_word_eq_iff.1 (Except.ok.inj h) with ⟨hlow, hhigh, hwraps⟩
        exact .word hmagnitude hlt hlow hhigh (by omega)
      · cases h
    · intro h
      generalize trim s.toList = t at h hplain
      cases h with
      | word magnitude below low high wraps =>
        rw [readMagnitude_eq_ok_iff.2 ⟨magnitude, below⟩]
        exact congrArg Except.ok (bmod_word_eq_iff.2 ⟨low, high, by omega⟩)
      | negative => exact absurd rfl (hplain _)

/-! ## Printed numbers -/

theorem isBlank_of_isDigit (hbase : base ≤ 16) {d : Nat} (h : IsDigit base c d) :
    isBlank c = false := by
  have hnone : ∀ d < 16, isBlank (Nat.digitChar d) = false ∧
      isBlank (Nat.digitChar d).toUpper = false := by
    decide
  have hd := hnone d (Nat.lt_of_lt_of_le h.1 hbase)
  rcases h.2 with rfl | rfl
  · exact hd.1
  · exact hd.2

theorem IsNumeral.isBlank_of_mem (hbase : base ≤ 16) (h : IsNumeral base cs n) (hc : c ∈ cs) :
    isBlank c = false := by
  rcases h.isDigit_of_mem hc with rfl | ⟨d, hd⟩
  · decide
  · exact isBlank_of_isDigit hbase hd

theorem IsMagnitude.isBlank_of_mem (h : IsMagnitude cs n) (hc : c ∈ cs) : isBlank c = false := by
  cases h with
  | decimal numeral => exact numeral.isBlank_of_mem (by decide) hc
  | marked mark numeral =>
    rcases List.mem_cons.1 hc with rfl | hbehind
    · decide
    · rcases List.mem_cons.1 hbehind with rfl | hdigit
      · rcases mark with rfl | rfl <;> decide
      · exact numeral.isBlank_of_mem (by decide) hdigit

/-- Nothing of a number is trimmed. -/
theorem IsMagnitude.trim_eq (h : IsMagnitude cs n) : trim cs = cs :=
  trim_eq_iff.2 (isTrimmed_self fun _ hc => h.isBlank_of_mem hc)

theorem readWord_of_isMagnitude {v : UInt64} (h : IsMagnitude s.toList v.toNat) :
    readWord s = .ok v :=
  readWord_eq_ok_iff.2 (by rwa [h.trim_eq])

theorem isMagnitude_toDigits (n : Nat) : IsMagnitude (Nat.toDigits 10 n) n :=
  .decimal (.plain (isDigits_toDigits (by decide) n))

theorem isDigits_hex (n : Nat) : IsDigits 16 (hex n).toList n := by
  rw [hex, String.toList_ofList]
  exact isDigits_toDigits (by decide) n

theorem toList_marked (digits : String) :
    ("0x" ++ digits).toList = '0' :: 'x' :: digits.toList := by
  rw [String.toList_append]
  rfl

/-- Digits behind the mark for base sixteen. -/
theorem isMagnitude_marked {digits : String} (h : IsDigits 16 digits.toList n) :
    IsMagnitude ("0x" ++ digits).toList n := by
  rw [toList_marked]
  exact .marked (.inl rfl) (.plain h)

theorem isMagnitude_hexMarked (n : Nat) : IsMagnitude (hexMarked n).toList n :=
  isMagnitude_marked (isDigits_hex n)

/-- An address is read back from its text, whose digits are filled up with zeros. -/
theorem readWord_text (a : Address) : readWord a.text = .ok a.value := by
  refine readWord_of_isMagnitude (isMagnitude_marked ?_)
  rw [padLeft, String.toList_ofList]
  exact (isDigits_hex a.toNat).zeros (by decide) _

theorem readWord_hexMarked (a : Address) : readWord (hexMarked a.toNat) = .ok a.value :=
  readWord_of_isMagnitude (isMagnitude_hexMarked a.toNat)

theorem readWord_hexUpper (a : Address) : readWord ("0x" ++ hexUpper a.toNat) = .ok a.value := by
  refine readWord_of_isMagnitude (isMagnitude_marked ?_)
  rw [hexUpper, String.toList_ofList]
  exact (isDigits_toDigits (by decide) a.toNat).upper (by decide)

/-- A signed number is read back from its decimal text, the lowest one included. -/
theorem readInteger_toString (d : Int64) : readInteger (toString d.toInt) = .ok d.toInt := by
  have hlow := d.le_toInt
  have hhigh := d.toInt_lt
  rw [readInteger_eq_ok_iff]
  generalize d.toInt = i at hlow hhigh
  cases i with
  | ofNat n =>
    have htext : (toString (Int.ofNat n)).toList = Nat.toDigits 10 n := by
      have hprint : toString (Int.ofNat n) = toString n := rfl
      rw [hprint, Nat.toString_eq_ofList_toDigits, String.toList_ofList]
    have hmagnitude := isMagnitude_toDigits n
    rw [htext, hmagnitude.trim_eq]
    rw [Int.ofNat_eq_natCast] at hhigh ⊢
    exact .word hmagnitude (by omega) (by omega) hhigh (by omega)
  | negSucc n =>
    have htext : (toString (Int.negSucc n)).toList = '-' :: Nat.toDigits 10 (n + 1) := by
      have hprint : toString (Int.negSucc n) = "-" ++ toString (n + 1) := rfl
      rw [hprint, Nat.toString_eq_ofList_toDigits, String.toList_append, String.toList_ofList,
        String.toList_ofList]
      rfl
    have hmagnitude := isMagnitude_toDigits (n + 1)
    have htrim : trim ('-' :: Nat.toDigits 10 (n + 1)) = '-' :: Nat.toDigits 10 (n + 1) := by
      refine trim_eq_iff.2 (isTrimmed_self (List.forall_mem_cons.2 ⟨by decide, ?_⟩))
      exact fun _ hc => hmagnitude.isBlank_of_mem hc
    have hvalue : Int.negSucc n = -((n + 1 : Nat) : Int) := rfl
    rw [htext, htrim]
    rw [hvalue] at hlow ⊢
    exact .negative hmagnitude (by omega)

/-- A signed number is read back from the digits of its two's complement. -/
theorem readInteger_wordHex (d : Int64) : readInteger (Insn.wordHex d.toInt) = .ok d.toInt := by
  have hlow := d.le_toInt
  have hhigh := d.toInt_lt
  have hmagnitude := isMagnitude_hexMarked (d.toInt % (1 <<< 64 : Nat)).toNat
  have hword : ((1 <<< 64 : Nat) : Int) = 2 ^ 64 := rfl
  rw [readInteger_eq_ok_iff, Insn.wordHex, hmagnitude.trim_eq]
  rw [hword] at hmagnitude ⊢
  exact .word hmagnitude (by omega) hlow hhigh (by omega)

/-- A text is trimmed. Then it is read as a word if it is the text of a number below `2 ^ 64`, and
as a signed integer if it is that of a word or has a minus sign in front of a number of at most `2 ^
63`, with the value that the text has; everything else is refused. So addresses are read back from
their text and from both cases of their digits, and signed numbers from their decimal digits and
from those of their two's complement. -/
theorem numbers_of_texts (s : String) (a : Address) (d : Int64) :
    (∃ t, IsTrimmed s.toList t ∧
      (∀ v, readWord s = .ok v ↔ IsMagnitude t v.toNat) ∧
      (∀ i, readInteger s = .ok i ↔ IsSigned t i)) ∧
    (readWord a.text = .ok a.value ∧ readWord (hexMarked a.toNat) = .ok a.value ∧
      readWord ("0x" ++ hexUpper a.toNat) = .ok a.value) ∧
    readInteger (toString d.toInt) = .ok d.toInt ∧
    readInteger (Insn.wordHex d.toInt) = .ok d.toInt :=
  ⟨⟨trim s.toList, trim_eq_iff.1 rfl, fun _ => readWord_eq_ok_iff, fun _ => readInteger_eq_ok_iff⟩,
    ⟨readWord_text a, readWord_hexMarked a, readWord_hexUpper a⟩, readInteger_toString d,
    readInteger_wordHex d⟩

end CodeSurvey.Text
