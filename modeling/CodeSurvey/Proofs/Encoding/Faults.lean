import CodeSurvey.Proofs.Encoding.Format

/-!
# Why reading fails

The reader has two complaints, and either says exactly what the bytes are like.

* `Opcode.IsWritten op bs` : the bytes of an opcode, by its number;
* `Encoding.Opening.Begins o bs` : the bytes begin with the prefixes and the opcode of `o`;
* `Encoding.read_eq_unsupported_iff_begins` : an opcode is refused where it stands behind the
  prefixes with all its bytes and has no shape;
* `Encoding.IsCut bs` : the bytes are the front part of an instruction, which goes on behind them;
* `Encoding.read_eq_ranOut_iff` : the reader runs out of bytes on these and no others.

The hard direction is that bytes on which the reader runs out do go on as an instruction. An opening
is completed by hand; behind an opening fourteen more bytes, whatever they are, are always enough.
-/

namespace CodeSurvey

/-! ## The opcode behind the prefixes -/

/-- The bytes of an opcode and its number: a byte that is not the escape stands for itself, and the
escape `0f` with a byte `xx` for `0fxx`. -/
inductive Opcode.IsWritten (op : Opcode) : List UInt8 → Prop where
  | plain {b : UInt8} (single : b ≠ 0x0f) (raw : op.raw.toNat = b.toNat) : IsWritten op [b]
  | escaped {b : UInt8} (raw : op.raw.toNat = 0x0f00 + b.toNat) : IsWritten op [0x0f, b]

namespace Opcode

theorem toNat_raw_ofByte (b : UInt8) : (ofByte b).raw.toNat = b.toNat := by
  revert b
  apply forall_byte
  decide +kernel

theorem toNat_raw_ofEscaped (b : UInt8) : (ofEscaped b).raw.toNat = 0x0f00 + b.toNat := by
  revert b
  apply forall_byte
  decide +kernel

theorem eq_of_toNat_raw {op op' : Opcode} (h : op.raw.toNat = op'.raw.toNat) : op = op' := by
  cases op
  cases op'
  exact congrArg Opcode.mk (UInt16.toNat_inj.1 h)

theorem isWritten_iff {op : Opcode} {bs : List UInt8} :
    op.IsWritten bs ↔
      ((∃ b, op = ofByte b ∧ b ≠ escape) ∨ ∃ b, op = ofEscaped b) ∧ bs = op.bytes := by
  constructor
  · intro h
    cases h with
    | @plain b single raw =>
      have hop : op = ofByte b := eq_of_toNat_raw (raw.trans (toNat_raw_ofByte b).symm)
      exact ⟨.inl ⟨b, hop, single⟩, by rw [hop, bytes_ofByte]⟩
    | @escaped b raw =>
      have hop : op = ofEscaped b := eq_of_toNat_raw (raw.trans (toNat_raw_ofEscaped b).symm)
      exact ⟨.inr ⟨b, hop⟩, by rw [hop, bytes_ofEscaped]; rfl⟩
  · rintro ⟨⟨b, rfl, hne⟩ | ⟨b, rfl⟩, rfl⟩
    · rw [bytes_ofByte]
      exact .plain hne (toNat_raw_ofByte b)
    · rw [bytes_ofEscaped]
      exact .escaped (toNat_raw_ofEscaped b)

end Opcode

namespace Encoding

/-- Some bytes begin with legacy prefixes, as many as stand there, then a REX byte if there is one,
then the opcode with all its bytes. -/
structure Opening.Begins (o : Opening) (bs : List UInt8) : Prop where
  legacy : ∀ b ∈ o.legacy, b ∈ legacyPrefixBytes
  rex : ∀ b ∈ o.rex, 0x40 ≤ b.toNat ∧ b.toNat ≤ 0x4f
  split : ∃ written rest, o.opcode.IsWritten written ∧
    bs = o.legacy ++ (o.rex.toList ++ (written ++ rest))
  /-- The run of legacy prefixes ends there. -/
  maximal : ∀ b ∈ bs[o.legacy.length]?, b ∉ legacyPrefixBytes
  /-- Without a REX byte there is none to take. -/
  noRex : o.rex = none → ∀ b ∈ bs[o.legacy.length]?, ¬(0x40 ≤ b.toNat ∧ b.toNat ≤ 0x4f)

theorem Opening.begins_iff {o : Opening} {bs : List UInt8} :
    o.Begins bs ↔ o.IsRead ∧ ∃ rest, bs = o.toBytes ++ rest := by
  rcases o with ⟨legacy, rex, op⟩
  -- The byte behind the run of prefixes is the first of what follows it.
  have hnext (behind : List UInt8) : (legacy ++ behind)[legacy.length]? = behind.head? := by
    simp [List.getElem?_append_right, List.head?_eq_getElem?]
  constructor
  · rintro ⟨hlegacy, hrex, ⟨written, rest, hwritten, rfl⟩, hmaximal, hnoRex⟩
    rcases Opcode.isWritten_iff.1 hwritten with ⟨hform, rfl⟩
    rw [hnext] at hmaximal hnoRex
    refine ⟨⟨?_, ?_, ?_⟩, rest, by simp [toBytes]⟩
    · intro b hb
      exact Prefix.isByte_iff.2 (hlegacy b hb)
    · intro b hb
      exact isRexByte_iff.2 (hrex b hb)
    · rcases hform with ⟨b, hop, hne⟩ | hop
      · refine .inl ⟨b, hop, hne, ?_⟩
        intro hnone
        have hop : op = .ofByte b := hop
        have hfirst : b ∈ (rex.toList ++ (op.bytes ++ rest)).head? := by
          have hnone : rex = none := hnone
          simp [hnone, hop, Opcode.bytes_ofByte]
        refine ⟨?_, ?_⟩
        · exact Bool.eq_false_iff.2 fun hbyte => hmaximal b hfirst (Prefix.isByte_iff.1 hbyte)
        · exact Bool.eq_false_iff.2 fun hbyte => hnoRex hnone b hfirst (isRexByte_iff.1 hbyte)
      · exact .inr hop
  · rintro ⟨hread, rest, rfl⟩
    rcases hread with ⟨hlegacy, hrex, hform⟩
    have hwritten : op.IsWritten op.bytes := by
      refine Opcode.isWritten_iff.2 ⟨?_, rfl⟩
      rcases hform with ⟨b, hop, hne, _⟩ | hop
      · exact .inl ⟨b, hop, hne⟩
      · exact .inr hop
    have hsplit : toBytes ⟨legacy, rex, op⟩ ++ rest =
        legacy ++ (rex.toList ++ (op.bytes ++ rest)) := by
      simp [toBytes]
    -- That byte is a REX byte, the escape, or an opcode that is neither.
    have hbehind : ∀ b ∈ (rex.toList ++ (op.bytes ++ rest)).head?,
        Prefix.isByte b = false ∧ (rex = none → isRexByte b = false) := by
      intro b hb
      cases rex with
      | some r =>
        have hbr : r = b := by simpa using hb
        subst hbr
        exact ⟨isByte_of_isRexByte (hrex r rfl), by simp⟩
      | none =>
        rcases hform with ⟨c, hop, _, hnone⟩ | ⟨c, hop⟩
        · have hop : op = .ofByte c := hop
          have hbc : c = b := by simpa [hop, Opcode.bytes_ofByte] using hb
          subst hbc
          exact ⟨(hnone rfl).1, fun _ => (hnone rfl).2⟩
        · have hop : op = .ofEscaped c := hop
          have hbc : Opcode.escape = b := by simpa [hop, Opcode.bytes_ofEscaped] using hb
          subst hbc
          exact ⟨Prefix.isByte_escape, fun _ => isRexByte_escape⟩
    refine ⟨?_, ?_, ⟨op.bytes, rest, hwritten, hsplit⟩, ?_, ?_⟩
    · intro b hb
      exact Prefix.isByte_iff.1 (hlegacy b hb)
    · intro b hb
      exact isRexByte_iff.1 (hrex b hb)
    · rw [hsplit, hnext]
      intro b hb hbyte
      have hnot := (hbehind b hb).1
      rw [Prefix.isByte_iff.2 hbyte] at hnot
      cases hnot
    · rw [hsplit, hnext]
      intro hnone b hb hbyte
      have hnot := (hbehind b hb).2 hnone
      rw [isRexByte_iff.2 hbyte] at hnot
      cases hnot

theorem read_eq_unsupported_iff_begins {bs : List UInt8} {op : Opcode} :
    read bs = .error (.unsupported op) ↔
      op.shape? = none ∧ ∃ o : Opening, o.opcode = op ∧ o.Begins bs := by
  rw [read_eq_unsupported_iff]
  constructor
  · intro h
    rcases h with ⟨o, rest, hread, hop, hshape, hbs⟩
    exact ⟨hshape, o, hop, Opening.begins_iff.2 ⟨hread, rest, hbs⟩⟩
  · intro h
    rcases h with ⟨hshape, o, hop, hbegins⟩
    rcases Opening.begins_iff.1 hbegins with ⟨hread, rest, hbs⟩
    exact ⟨o, rest, hread, hop, hshape, hbs⟩

/-! ## Bytes that go on -/

/-- The bytes are the front part of an instruction, and not all of it. -/
def IsCut (bs : List UInt8) : Prop :=
  ∃ (e : Encoding) (shape : Shape),
    e.Valid shape ∧ bs <+: e.toBytes ∧ bs.length < e.toBytes.length

theorem read_of_isCut {bs : List UInt8} (h : IsCut bs) : read bs = .error .ranOut := by
  rcases h with ⟨e, shape, hvalid, hfront, hshort⟩
  have hcut := read_of_cut (valid_iff_wellFormed.1 hvalid) hshort
  rwa [← List.prefix_iff_eq_take.1 hfront] at hcut

theorem readRex_eq_ok {bs rest : List UInt8} {rex : Option UInt8}
    (h : readRex bs = .ok (rex, rest)) :
    (∀ b ∈ rex, isRexByte b = true) ∧ bs = rex.toList ++ rest := by
  cases bs with
  | nil => cases h
  | cons b tail =>
    cases hb : isRexByte b with
    | true =>
      rw [readRex_of_rex hb] at h
      cases h
      exact ⟨by simpa using hb, rfl⟩
    | false =>
      rw [readRex_of_not_rex hb] at h
      cases h
      exact ⟨by simp, rfl⟩

/-- What an opening that runs out has got so far. -/
theorem split_of_readOpening {bs : List UInt8} (h : readOpening bs = .error .ranOut) :
    ∃ (legacy : List UInt8) (rex : Option UInt8) (tail : List UInt8),
      (∀ b ∈ legacy, Prefix.isByte b = true) ∧ (∀ b ∈ rex, isRexByte b = true) ∧
        tail <+: [Opcode.escape] ∧ bs = legacy ++ (rex.toList ++ tail) := by
  have hlegacy : ∀ b ∈ bs.takeWhile Prefix.isByte, Prefix.isByte b = true := by
    intro b hb
    exact List.all_eq_true.1 List.all_takeWhile b hb
  have hsplit : bs.takeWhile Prefix.isByte ++ bs.dropWhile Prefix.isByte = bs :=
    List.takeWhile_append_dropWhile
  -- An opcode runs out before its first byte or behind the escape.
  have hopcode : ∀ tail, readOpcode tail = .error .ranOut → tail <+: [Opcode.escape] := by
    intro tail htail
    cases tail with
    | nil => exact List.nil_prefix
    | cons b rest =>
      by_cases hb : b = Opcode.escape
      · cases rest with
        | nil => exact hb ▸ List.prefix_rfl
        | cons c cs => simp [readOpcode, hb] at htail
      · simp [readOpcode, hb] at htail
  rcases Except.bind_eq_error_iff.1 h with hrex | ⟨⟨rex, tail⟩, hrex, hbehind⟩
  · -- Without any byte behind the prefixes there is nothing to take for a REX byte.
    cases hdrop : bs.dropWhile Prefix.isByte with
    | nil =>
      rw [hdrop, List.append_nil] at hsplit
      exact ⟨bs, none, [], hsplit ▸ hlegacy, by simp, List.nil_prefix, by simp⟩
    | cons b rest => cases hb : isRexByte b <;> simp [hdrop, readRex, hb] at hrex
  · rcases Except.bind_eq_error_iff.1 hbehind with hop | ⟨_, _, hdone⟩
    · refine ⟨_, rex, tail, hlegacy, ?_, hopcode tail hop, ?_⟩
      · exact (readRex_eq_ok hrex).1
      · rw [← (readRex_eq_ok hrex).2, hsplit]
    · cases hdone

/-- An opening that runs out goes on, if only with the opcode of a system call. -/
theorem isCut_of_readOpening {bs : List UInt8} (h : readOpening bs = .error .ranOut) :
    IsCut bs := by
  rcases split_of_readOpening h with ⟨legacy, rex, tail, hlegacy, hrex, htail, rfl⟩
  have hbyte : Opcode.ofEscaped 0x05 = .ofEscaped (Opcode.ofEscaped 0x05).low := by decide
  have hshape : (Opcode.ofEscaped 0x05).shape? = some ⟨false, .empty⟩ := by decide
  have hwf : WellFormed ⟨legacy, rex, .ofEscaped 0x05, none, none, [], []⟩ ⟨false, .empty⟩ :=
    ⟨hlegacy, hrex, Or.inr hbyte, hshape, rfl, rfl, rfl, rfl⟩
  have hbytes : toBytes ⟨legacy, rex, .ofEscaped 0x05, none, none, [], []⟩ =
      legacy ++ (rex.toList ++ [Opcode.escape, 0x05]) := by
    simp [toBytes, Opcode.bytes_ofEscaped]
  -- Nothing and the escape alone are both in front of the opcode of a system call.
  have hfront : tail <+: [Opcode.escape, 0x05] := htail.trans ⟨[0x05], rfl⟩
  have hshort := htail.length_le
  refine ⟨_, _, valid_iff_wellFormed.2 hwf, ?_, ?_⟩
  · rw [hbytes]
    exact (List.prefix_append_right_inj _).2 ((List.prefix_append_right_inj _).2 hfront)
  · rw [hbytes]
    simp only [List.length_append, List.length_cons, List.length_nil] at hshort ⊢
    omega

/-! ## Fields with enough bytes -/

theorem exists_readByteIf (wanted : Bool) {bs : List UInt8} (h : 1 ≤ bs.length) :
    ∃ b rest, readByteIf wanted bs = .ok (b, rest) ∧ bs.length ≤ rest.length + 1 := by
  cases wanted with
  | false => exact ⟨none, bs, rfl, Nat.le_succ _⟩
  | true =>
    cases bs with
    | nil => cases h
    | cons b rest => exact ⟨some b, rest, rfl, Nat.le_refl _⟩

theorem exists_readBytes (n : Nat) {bs : List UInt8} (h : n ≤ bs.length) :
    ∃ front rest, readBytes n bs = .ok (front, rest) ∧ bs.length = rest.length + n := by
  have hsplit : bs = bs.take n ++ bs.drop n := (List.take_append_drop n bs).symm
  refine ⟨_, _, readBytes_eq_ok_iff.2 ⟨List.length_take_of_le h, hsplit⟩, ?_⟩
  rw [List.length_drop]
  omega

theorem displacementWidth_le (modrm : Option ModRM) (sib : Option UInt8) :
    displacementWidth modrm sib ≤ 4 := by
  cases modrm with
  | none => exact Nat.zero_le _
  | some m =>
    show m.displacementWidth sib ≤ 4
    unfold ModRM.displacementWidth
    split
    · omega
    · omega
    · split <;> omega
    · omega

theorem operandWidth_le (legacy : List UInt8) (rex : Option UInt8) (modrm : Option ModRM)
    (shape : Shape) : operandWidth legacy rex modrm shape ≤ 8 := by
  unfold operandWidth OperandKind.width
  repeat' split
  all_goals omega

/-- The fields behind an opening take fourteen bytes at most. -/
theorem exists_readFields (o : Opening) (shape : Shape) {bs : List UInt8} (h : 14 ≤ bs.length) :
    ∃ e rest, readFields o shape bs = .ok (e, rest) := by
  -- One byte for ModRM, one for SIB, four for the displacement and eight for the operand.
  have hone : 1 ≤ bs.length := by omega
  rcases exists_readByteIf shape.hasModRM hone with ⟨modrm, r₁, hmodrm, hr₁⟩
  have hone₁ : 1 ≤ r₁.length := by omega
  rcases exists_readByteIf ((modrm.map ModRM.mk).any ModRM.needsSib) hone₁ with
    ⟨sib, r₂, hsib, hr₂⟩
  have hdispWidth := displacementWidth_le (modrm.map ModRM.mk) sib
  have hdispFits : displacementWidth (modrm.map ModRM.mk) sib ≤ r₂.length := by omega
  rcases exists_readBytes _ hdispFits with ⟨displacement, r₃, hdisp, hr₃⟩
  have hoperWidth := operandWidth_le o.legacy o.rex (modrm.map ModRM.mk) shape
  have hoperFits : operandWidth o.legacy o.rex (modrm.map ModRM.mk) shape ≤ r₃.length := by omega
  rcases exists_readBytes _ hoperFits with ⟨operand, r₄, hoper, _⟩
  refine ⟨⟨o.legacy, o.rex, o.opcode, modrm.map ModRM.mk, sib, displacement, operand⟩, r₄, ?_⟩
  refine Except.bind_eq_ok_iff.2 ⟨_, hmodrm, ?_⟩
  refine Except.bind_eq_ok_iff.2 ⟨_, hsib, ?_⟩
  refine Except.bind_eq_ok_iff.2 ⟨_, hdisp, ?_⟩
  exact Except.bind_eq_ok_iff.2 ⟨_, hoper, rfl⟩

theorem isCut_of_read {bs : List UInt8} (h : read bs = .error .ranOut) : IsCut bs := by
  have hstages := h
  rw [read_eq] at hstages
  rcases Except.bind_eq_error_iff.1 hstages with hopen | ⟨⟨o, r⟩, hopen, hbehind⟩
  · exact isCut_of_readOpening hopen
  · rcases readOpening_eq_ok_iff.1 hopen with ⟨hread, hbs⟩
    cases hshape : o.opcode.shape? with
    | none => simp [readBehind, hshape] at hbehind
    | some shape =>
      -- With fourteen more bytes reading succeeds, and what it gives takes some of them.
      have henough : 14 ≤ (r ++ List.replicate 14 0).length := by simp
      rcases exists_readFields o shape henough with ⟨e, rest, hfields⟩
      have hmore : read (bs ++ List.replicate 14 0) = .ok (e, rest) := by
        rw [read_eq, hbs, List.append_assoc]
        refine Except.bind_eq_ok_iff.2 ⟨_, readOpening_toBytes hread _, ?_⟩
        simpa [readBehind, hshape] using hfields
      rcases read_eq_ok_iff.1 hmore with ⟨⟨shape', hwf⟩, hbytes⟩
      have hfront : bs <+: e.toBytes ++ rest := ⟨_, hbytes⟩
      have hwhole : e.toBytes <+: e.toBytes ++ rest := List.prefix_append _ _
      by_cases hshort : bs.length < e.toBytes.length
      · refine ⟨e, shape', valid_iff_wellFormed.2 hwf, ?_, hshort⟩
        exact List.prefix_of_prefix_length_le hfront hwhole (Nat.le_of_lt hshort)
      · -- If it took none of them, reading would have succeeded without them.
        rcases List.prefix_of_prefix_length_le hwhole hfront (Nat.le_of_not_lt hshort) with
          ⟨left, hleft⟩
        have hok : read bs = .ok (e, left) := read_eq_ok_iff.2 ⟨⟨shape', hwf⟩, hleft.symm⟩
        rw [h] at hok
        cases hok

theorem read_eq_ranOut_iff {bs : List UInt8} : read bs = .error .ranOut ↔ IsCut bs :=
  ⟨isCut_of_read, read_of_isCut⟩

end Encoding

end CodeSurvey
