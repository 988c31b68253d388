import CodeSurvey.Proofs.Text.Numbers
import CodeSurvey.Protection

/-!
# What a protection text is

A protection is written as a flag word, decimal or of base sixteen behind a mark, or as letters. The
three notations are tried one after another. Behind the mark nothing but a flag word is accepted; a
text without it that is no decimal flag word, be it for a number that is too large, is read as
letters. Their order, case and number do not matter, so that every text with the characters of a
printed protection is read as that protection.

* `Protection.IsFlagWord`, `IsLetter`, `ofLetters` : the notations, with what they mean;
* `Protection.readLetters_eq_ok_iff`, `readLetters_eq_error_iff` : the set of letters that occur, or
  the first character that is none;
* `Protection.parse_of_letters` : a text of letters is in no other notation;
* `Protection.protections_of_texts` : what every text is read as.
-/

namespace CodeSurvey

/-- Only the capitals from A to Z have another character as their lower case. -/
theorem Text.toNat_toLower (c : Char) :
    c.toLower.toNat = if 65 ≤ c.toNat ∧ c.toNat ≤ 90 then c.toNat + 32 else c.toNat := by
  have hrange : c.val ≥ 'A'.val ∧ c.val ≤ 'Z'.val ↔ 65 ≤ c.toNat ∧ c.toNat ≤ 90 := Iff.rfl
  by_cases hcapital : c.val ≥ 'A'.val ∧ c.val ≤ 'Z'.val
  · have hbounds := hrange.1 hcapital
    have hlower : c.toLower.toNat = (c.val + ('a'.val - 'A'.val)).toNat :=
      congrArg Char.toNat (dif_pos hcapital)
    have hsum : (c.val + ('a'.val - 'A'.val)).toNat = (c.toNat + 32) % 2 ^ 32 :=
      UInt32.toNat_add _ _
    rw [if_pos hbounds, hlower, hsum]
    exact Nat.mod_eq_of_lt (by omega)
  · have hsame : c.toLower = c := dif_neg hcapital
    rw [if_neg (mt hrange.2 hcapital), hsame]

namespace Protection

open Text (IsDigit IsNumeral IsTrimmed NumeralError readNumeral trim)

variable {base d n : Nat} {c : Char} {cs ds : List Char} {s : String} {p q : Protection}
  {cause : NumeralError} {e : ProtectionError}

/-! ## Flag words -/

/-- A numeral below `2 ^ 32`, and the permissions among the bits of its number. -/
def IsFlagWord (base : Nat) (cs : List Char) (p : Protection) : Prop :=
  ∃ n, IsNumeral base cs n ∧ n < 2 ^ 32 ∧ p.bits = n &&& 0b111

theorem bits_ofBits (n : Nat) : (ofBits n).bits = n &&& 0b111 := by
  have hmask : n &&& 0b111 = n % 8 := Nat.and_two_pow_sub_one_eq_mod n 3
  rw [hmask]
  simp only [bits, ofBits, Nat.toNat_testBit]
  omega

theorem bits_eq_iff : p.bits = n &&& 0b111 ↔ p = ofBits n := by
  constructor
  · intro h
    rw [← bits_ofBits] at h
    rw [← ofBits_bits p, h, ofBits_bits]
  · rintro rfl
    exact bits_ofBits n

theorem isFlagWord_iff (hpos : 0 < base) (hbase : base ≤ 16) :
    IsFlagWord base cs p ↔ ∃ n, readNumeral base (1 <<< 32) cs = .ok n ∧ p = ofBits n := by
  simp only [IsFlagWord, bits_eq_iff, Text.readNumeral_eq_ok_iff hpos hbase, and_assoc]
  exact Iff.rfl

theorem isFlagWord_iff_of_read (hpos : 0 < base) (hbase : base ≤ 16)
    (h : readNumeral base (1 <<< 32) cs = .ok n) : IsFlagWord base cs p ↔ p = ofBits n := by
  rw [isFlagWord_iff hpos hbase, h]
  simp only [Except.ok.injEq, exists_eq_left']

theorem not_isFlagWord_of_read (hpos : 0 < base) (hbase : base ≤ 16)
    (h : readNumeral base (1 <<< 32) cs = .error cause) : ¬IsFlagWord base cs p := by
  rw [isFlagWord_iff hpos hbase, h]
  simp only [reduceCtorEq, false_and, exists_false, not_false_eq_true]

/-! ## Letters -/

/-- A letter of a permission, in either case, or a dash. -/
def IsLetter (c : Char) : Prop :=
  c ∈ ['r', 'R', 'w', 'W', 'x', 'X', '-']

instance : DecidablePred IsLetter :=
  fun c => inferInstanceAs (Decidable (c ∈ ['r', 'R', 'w', 'W', 'x', 'X', '-']))

/-- The permissions whose letters occur in a text, in either case. -/
def ofLetters (cs : List Char) : Protection where
  read := 'r' ∈ cs ∨ 'R' ∈ cs
  write := 'w' ∈ cs ∨ 'W' ∈ cs
  execute := 'x' ∈ cs ∨ 'X' ∈ cs

/-- The first character of a text that is no letter of a permission and no dash. -/
def IsFirstOther (cs : List Char) (c : Char) : Prop :=
  ∃ front back, cs = front ++ c :: back ∧ (∀ c' ∈ front, IsLetter c') ∧ ¬IsLetter c

theorem forall_isLetter_iff {P : Char → Prop} :
    (∀ c, IsLetter c → P c) ↔ P 'r' ∧ P 'R' ∧ P 'w' ∧ P 'W' ∧ P 'x' ∧ P 'X' ∧ P '-' := by
  simp [IsLetter]

theorem isLetter_iff_toLower : IsLetter c ↔ c.toLower ∈ ['r', 'w', 'x', '-'] := by
  simp only [IsLetter, List.mem_cons, List.not_mem_nil, or_false, ← Char.toNat_inj,
    Text.toNat_toLower, Char.reduceToNat]
  split <;> omega

theorem isFirstOther_cons_iff {c' : Char} :
    IsFirstOther (c :: cs) c' ↔ ¬IsLetter c ∧ c' = c ∨ IsLetter c ∧ IsFirstOther cs c' := by
  constructor
  · rintro ⟨_ | ⟨_, front⟩, back, hcut, hfront, hother⟩
    · cases hcut
      exact .inl ⟨hother, rfl⟩
    · cases hcut
      have hletters := List.forall_mem_cons.1 hfront
      exact .inr ⟨hletters.1, front, back, rfl, hletters.2, hother⟩
  · rintro (⟨hother, rfl⟩ | ⟨hletter, front, back, rfl, hfront, hother⟩)
    · exact ⟨[], cs, rfl, by simp, hother⟩
    · exact ⟨c :: front, back, rfl, List.forall_mem_cons.2 ⟨hletter, hfront⟩, hother⟩

/-- The permissions of either one. -/
def union (p q : Protection) : Protection where
  read := p.read || q.read
  write := p.write || q.write
  execute := p.execute || q.execute

theorem union_none (p : Protection) : p.union none = p := by
  simp only [union, none, Bool.or_false]

theorem none_union (p : Protection) : none.union p = p := by
  simp only [union, none, Bool.false_or]

theorem union_assoc (p q r : Protection) : (p.union q).union r = p.union (q.union r) := by
  simp only [union, Bool.or_assoc]

theorem ofLetters_cons (c : Char) (cs : List Char) :
    ofLetters (c :: cs) = (ofLetters [c]).union (ofLetters cs) := by
  simp only [ofLetters, union, List.mem_cons, List.not_mem_nil, or_false, ← Bool.decide_or,
    or_or_or_comm]

theorem ofLetters_congr (h : ∀ c, c ∈ cs ↔ c ∈ ds) : ofLetters cs = ofLetters ds := by
  simp only [ofLetters, h]

/-! ## Reading letters -/

theorem addLetter_of_isLetter (h : IsLetter c) :
    p.addLetter c = .ok (p.union (ofLetters [c])) := by
  have hadded : ∀ c, IsLetter c → p.addLetter c = .ok (p.union (ofLetters [c])) := by
    rw [forall_isLetter_iff]
    rcases p with ⟨_ | _, _ | _, _ | _⟩ <;> decide
  exact hadded c h

theorem addLetter_of_not_isLetter (h : ¬IsLetter c) :
    p.addLetter c = .error (.unknownLetter c.toLower) := by
  rw [isLetter_iff_toLower] at h
  rw [addLetter]
  split
  · next hread => simp [hread] at h
  · next hwrite => simp [hwrite] at h
  · next hexecute => simp [hexecute] at h
  · next hdash => simp [hdash] at h
  · rfl

/-- Letters add to the permissions that are there already. -/
theorem foldlM_addLetter_eq_ok_iff :
    cs.foldlM addLetter p = .ok q ↔ (∀ c ∈ cs, IsLetter c) ∧ q = p.union (ofLetters cs) := by
  -- The permissions of the letters in front are kept in `p`.
  induction cs generalizing p with
  | nil =>
    have hnone : ofLetters [] = none := rfl
    rw [hnone, union_none, List.foldlM_nil]
    simp [pure, Except.pure, eq_comm]
  | cons c cs ih =>
    rw [List.foldlM_cons, List.forall_mem_cons]
    by_cases hc : IsLetter c
    · rw [addLetter_of_isLetter hc, ofLetters_cons c cs, ← union_assoc]
      exact ih.trans (by simp [hc])
    · rw [addLetter_of_not_isLetter hc]
      exact iff_of_false (by simp [bind, Except.bind]) fun h => hc h.1.1

/-- Another character ends the reading, whatever is behind it. -/
theorem foldlM_addLetter_eq_error_iff :
    cs.foldlM addLetter p = .error e ↔ ∃ c, IsFirstOther cs c ∧ e = .unknownLetter c.toLower := by
  induction cs generalizing p with
  | nil =>
    refine iff_of_false (by simp [pure, Except.pure]) ?_
    rintro ⟨c, ⟨front, back, hcut, _⟩, _⟩
    simp at hcut
  | cons c cs ih =>
    rw [List.foldlM_cons]
    simp only [isFirstOther_cons_iff]
    by_cases hc : IsLetter c
    · rw [addLetter_of_isLetter hc]
      exact ih.trans (by simp [hc])
    · rw [addLetter_of_not_isLetter hc]
      simp [bind, Except.bind, hc, eq_comm]

theorem readLetters_eq_ok_iff :
    readLetters cs = .ok p ↔ (∀ c ∈ cs, IsLetter c) ∧ p = ofLetters cs := by
  rw [readLetters, foldlM_addLetter_eq_ok_iff, none_union]

/-- The first other character is named, in the message too. -/
theorem readLetters_eq_error_iff :
    readLetters cs = .error e ↔ ∃ c, IsFirstOther cs c ∧ e = .unknownLetter c.toLower ∧
      e.message = "invalid protection character '" ++ c.toLower.toString ++ "'" := by
  refine foldlM_addLetter_eq_error_iff.trans (exists_congr fun c => and_congr_right fun _ => ?_)
  constructor
  · rintro rfl
    exact ⟨rfl, rfl⟩
  · exact And.left

/-! ## Choice of the notation -/

theorem parse_marked_eq_ok_iff (h : trim s.toList = '0' :: 'x' :: ds) :
    parse s = .ok p ↔ IsFlagWord 16 ds p := by
  rw [parse, h]
  simp only
  split
  · next n hread =>
    rw [isFlagWord_iff_of_read (by decide) (by decide) hread, Except.ok.injEq, eq_comm]
  · next cause hread =>
    exact iff_of_false (by simp) (not_isFlagWord_of_read (by decide) (by decide) hread)

/-- Behind the mark a fault is final, and the whole text is named. -/
theorem exists_cause_of_parse_marked (h : trim s.toList = '0' :: 'x' :: ds)
    (he : parse s = .error e) :
    ∃ cause, e = .malformedFlags (String.ofList (trim s.toList)) cause := by
  rw [parse, h] at he
  rw [h]
  simp only at he
  split at he
  · cases he
  · next cause _ => exact ⟨cause, (Except.error.inj he).symm⟩

theorem parse_of_flagWord (hplain : ∀ ds, trim s.toList ≠ '0' :: 'x' :: ds)
    (h : IsFlagWord 10 (trim s.toList) p) : parse s = .ok p := by
  rw [parse]
  split
  · next ds hmark => exact absurd hmark (hplain ds)
  · split
    · next n hread => rw [(isFlagWord_iff_of_read (by decide) (by decide) hread).1 h]
    · next cause hread => exact absurd h (not_isFlagWord_of_read (by decide) (by decide) hread)

/-- A fault of a decimal numeral is forgotten. -/
theorem parse_of_not_flagWord (hplain : ∀ ds, trim s.toList ≠ '0' :: 'x' :: ds)
    (h : ∀ p, ¬IsFlagWord 10 (trim s.toList) p) : parse s = readLetters (trim s.toList) := by
  rw [parse]
  split
  · next ds hmark => exact absurd hmark (hplain ds)
  · split
    · next n hread =>
      exact absurd ((isFlagWord_iff_of_read (by decide) (by decide) hread).2 rfl) (h _)
    · rfl

/-! ## Texts of letters -/

theorem not_isLetter_of_isDigit (h : IsDigit 10 c d) : ¬IsLetter c := by
  have hcode := (Text.isDigit_iff_toNat (by decide)).1 h
  simp only [IsLetter, List.mem_cons, List.not_mem_nil, or_false, ← Char.toNat_inj,
    Char.reduceToNat]
  omega

/-- A numeral has characters, and none of them is a letter. -/
theorem not_isFlagWord_of_letters (h : ∀ c ∈ cs, IsLetter c) : ¬IsFlagWord 10 cs p := by
  rintro ⟨n, hnumeral, _⟩
  have hne : cs ≠ [] := by
    cases hnumeral with
    | plain digits => exact digits.1
    | signed => exact List.cons_ne_nil _ _
  rcases List.exists_mem_of_ne_nil cs hne with ⟨c, hc⟩
  rcases hnumeral.isDigit_of_mem hc with rfl | ⟨d, hd⟩
  · exact absurd (h '+' hc) (by decide)
  · exact not_isLetter_of_isDigit hd (h c hc)

theorem trim_of_letters (h : ∀ c ∈ cs, IsLetter c) : trim cs = cs := by
  have hblank : ∀ c, IsLetter c → Text.isBlank c = false := by
    rw [forall_isLetter_iff]
    decide
  exact Text.trim_eq_iff.2 (Text.isTrimmed_self fun c hc => hblank c (h c hc))

/-- Letters and dashes alone are nothing but letters: not blank, no mark and no numeral. -/
theorem parse_of_letters (h : ∀ c ∈ s.toList, IsLetter c) :
    parse s = .ok (ofLetters s.toList) := by
  have htrim := trim_of_letters h
  have hplain : ∀ ds, trim s.toList ≠ '0' :: 'x' :: ds := by
    intro ds hmark
    rw [htrim] at hmark
    exact absurd (h '0' (hmark ▸ List.mem_cons_self)) (by decide)
  have hwords : ∀ p, ¬IsFlagWord 10 (trim s.toList) p := by
    intro p
    rw [htrim]
    exact not_isFlagWord_of_letters h
  rw [parse_of_not_flagWord hplain hwords, htrim]
  exact readLetters_eq_ok_iff.2 ⟨h, rfl⟩

/-! ## Printed protections -/

theorem toList_text (p : Protection) :
    p.text.toList = [if p.read then 'r' else '-', if p.write then 'w' else '-',
      if p.execute then 'x' else '-'] :=
  String.toList_ofList

theorem isLetter_of_mem_text (h : c ∈ p.text.toList) : IsLetter c := by
  have hletters : ∀ c ∈ p.text.toList, IsLetter c := by
    simp only [toList_text, List.forall_mem_cons]
    refine ⟨?_, ?_, ?_, List.forall_mem_nil _⟩
    · split <;> decide
    · split <;> decide
    · split <;> decide
  exact hletters c h

theorem ofLetters_text (p : Protection) : ofLetters p.text.toList = p := by
  rw [toList_text]
  rcases p with ⟨_ | _, _ | _, _ | _⟩ <;> rfl

theorem parse_of_mem_text_iff (h : ∀ c, c ∈ s.toList ↔ c ∈ p.text.toList) : parse s = .ok p := by
  have hletters : ∀ c ∈ s.toList, IsLetter c := fun c hc => isLetter_of_mem_text ((h c).1 hc)
  rw [parse_of_letters hletters, ofLetters_congr h, ofLetters_text]

/-- A text is trimmed. With the mark in front, it is accepted exactly if there is a flag word of
base sixteen behind the mark, and otherwise named as a whole. Without the mark, a decimal flag word
is accepted; what is none is accepted exactly if it has letters and dashes only, as the set of its
letters, and otherwise the first other character is named, in lower case. So a printed protection is
read back, and so is every text with the same characters, in any order and number. -/
theorem protections_of_texts (s u : String) (p : Protection)
    (h : ∀ c, c ∈ u.toList ↔ c ∈ p.text.toList) :
    (∃ t, IsTrimmed s.toList t ∧
      (∀ ds, t = '0' :: 'x' :: ds →
        (∀ q, parse s = .ok q ↔ IsFlagWord 16 ds q) ∧
          ∀ e, parse s = .error e → ∃ cause, e = .malformedFlags (String.ofList t) cause) ∧
      ((∀ ds, t ≠ '0' :: 'x' :: ds) →
        (∀ q, IsFlagWord 10 t q → parse s = .ok q) ∧
          ((∀ q, ¬IsFlagWord 10 t q) →
            (∀ q, parse s = .ok q ↔ (∀ c ∈ t, IsLetter c) ∧ q = ofLetters t) ∧
              ∀ e, parse s = .error e ↔ ∃ c, IsFirstOther t c ∧ e = .unknownLetter c.toLower ∧
                e.message = "invalid protection character '" ++ c.toLower.toString ++ "'"))) ∧
    parse p.text = .ok p ∧ parse u = .ok p := by
  refine ⟨⟨trim s.toList, Text.trim_eq_iff.1 rfl, ?_, ?_⟩, ?_, ?_⟩
  · intro ds hmark
    exact ⟨fun _ => parse_marked_eq_ok_iff hmark, fun _ => exists_cause_of_parse_marked hmark⟩
  · intro hplain
    refine ⟨fun _ => parse_of_flagWord hplain, fun hwords => ?_⟩
    rw [parse_of_not_flagWord hplain hwords]
    exact ⟨fun _ => readLetters_eq_ok_iff, fun _ => readLetters_eq_error_iff⟩
  · exact parse_of_mem_text_iff fun _ => Iff.rfl
  · exact parse_of_mem_text_iff h

/-- The characters of `r-x`, turned round and repeated. -/
theorem protections_of_texts_shuffledText :
    (∀ c, c ∈ "x--rxx".toList ↔ c ∈ (text ⟨true, false, true⟩).toList) ∧
      parse (text ⟨true, false, true⟩) = .ok ⟨true, false, true⟩ ∧
      parse "x--rxx" = .ok ⟨true, false, true⟩ := by
  have hsame : ∀ c, c ∈ "x--rxx".toList ↔ c ∈ (text ⟨true, false, true⟩).toList := by
    intro c
    have hshuffled : "x--rxx".toList = ['x', '-', '-', 'r', 'x', 'x'] := by decide
    have htext : (text ⟨true, false, true⟩).toList = ['r', '-', 'x'] := by decide
    simp only [hshuffled, htext, List.mem_cons]
    grind
  exact ⟨hsame, (protections_of_texts " 0x5" "x--rxx" ⟨true, false, true⟩ hsame).2⟩

-- The mark is not written with a capital, and a number that is too large is no flag word.
example : parse "0X6" = .error (.unknownLetter '0') := by decide

example : parse "4294967296" = .error (.unknownLetter '4') := by decide

example : parse "--" = .ok none := by decide

end Protection

end CodeSurvey
