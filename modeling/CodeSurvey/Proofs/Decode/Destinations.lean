import CodeSurvey.Proofs.Decode.Kinds
import CodeSurvey.Proofs.Decode.OperandSize
import CodeSurvey.Proofs.Image.Provenance

/-!
# Destinations

Where calls and jumps lead, from the fields in the bytes: at a signed distance from the end of the
instruction, around the address space. The distance of a relative call or jump is its operand, and
that of a call through a slot is its displacement.

* `Bytes.LeadsTo bs origin t` : the distance in the bytes leads from one address to the other;
* `Encoding.CallsTo e origin t`, `BranchesTo e origin t` : what is resolved, and from which field;
* `Insn.callTarget?_eq_some_iff`, `branchTarget?_eq_some_iff` : when there is a destination;
* `Insn.ResolvesLike i e` : the destinations of an instruction are those of its encoding;
* `Code.targets_of_decode` : so it is for everything that is decoded, and for calls that are found.
-/

namespace CodeSurvey

/-! ## Distances -/

/-- From `origin` on, the distance that the bytes hold in two's complement leads to `t`. -/
def Bytes.LeadsTo (bs : List UInt8) (origin : Nat) (t : Address) : Prop :=
  ∃ d : Int, IsTwosComplement bs d ∧ (t.toNat : Int) = (origin + d) % 2 ^ 64

theorem Bytes.leadsTo_iff {bs : List UInt8} {a t : Address} {n : Nat} :
    LeadsTo bs (a.toNat + n) t ↔ (a + n).offset (signed bs) = t := by
  have hwrap : (((a + n).offset (signed bs)).toNat : Int) =
      (((a.toNat + n : Nat) : Int) + signed bs) % 2 ^ 64 := by
    have hstop := Address.toNat_add a n
    rw [Address.toNat_offset]
    omega
  constructor
  · rintro ⟨d, hd, ht⟩
    cases isTwosComplement_iff.1 hd
    have hsame := hwrap.trans ht.symm
    exact Address.toNat_inj (by exact_mod_cast hsame)
  · rintro rfl
    exact ⟨signed bs, isTwosComplement_signed bs, hwrap⟩

/-! ## Fields -/

namespace Opcode

/-- Jumps with a distance of one byte. -/
def IsShortBranch (op : Opcode) : Prop :=
  op.IsShortConditional ∨ op = .ofByte 0xeb

/-- The relative call, and jumps with a distance of four bytes. -/
def IsNearBranch (op : Opcode) : Prop :=
  op = .ofByte 0xe8 ∨ op = .ofByte 0xe9 ∨ op.IsNearConditional

end Opcode

namespace Encoding

/-- The instruction is a call to `t`, or one through a slot at `t`. -/
inductive CallsTo (e : Encoding) (origin : Nat) (t : Address) : Prop where
  | relative (op : e.opcode = .ofByte 0xe8) (width : e.operand.length = 4)
      (target : Bytes.LeadsTo e.operand origin t)
  | slot (call : e.IsSlotCall) (width : e.displacement.length = 4)
      (target : Bytes.LeadsTo e.displacement origin t)

/-- The instruction is a relative call or jump to `t`. -/
inductive BranchesTo (e : Encoding) (origin : Nat) (t : Address) : Prop where
  | short (op : e.opcode.IsShortBranch) (width : e.operand.length = 1)
      (target : Bytes.LeadsTo e.operand origin t)
  | near (op : e.opcode.IsNearBranch) (width : e.operand.length = 4)
      (target : Bytes.LeadsTo e.operand origin t)

end Encoding

namespace Opcode

/-- The shape of a short branch, checked for every byte of the row. -/
theorem shape?_of_isShortBranch {op : Opcode} (h : op.IsShortBranch) :
    op.shape? = some ⟨false, .rel8⟩ := by
  have hrow : ∀ b : UInt8, 0x70 ≤ b.toNat ∧ b.toNat ≤ 0x7f →
      (ofByte b).shape? = some ⟨false, .rel8⟩ := by
    apply forall_byte
    decide +kernel
  rcases h with ⟨b, rfl, hge, hle⟩ | rfl
  · exact hrow b ⟨hge, hle⟩
  · decide

theorem shape?_of_isNearBranch {op : Opcode} (h : op.IsNearBranch) :
    op.shape? = some ⟨false, .rel32⟩ := by
  have hrow : ∀ b : UInt8, 0x80 ≤ b.toNat ∧ b.toNat ≤ 0x8f →
      (ofEscaped b).shape? = some ⟨false, .rel32⟩ := by
    apply forall_byte
    decide +kernel
  rcases h with rfl | rfl | ⟨b, rfl, hge, hle⟩
  · decide
  · decide
  · exact hrow b ⟨hge, hle⟩

/-- The group has a ModRM byte, and no relative call or jump has one. -/
theorem not_isBranch_group5 : ¬((ofByte 0xff).IsShortBranch ∨ (ofByte 0xff).IsNearBranch) := by
  rintro (hshort | hnear)
  · exact absurd (shape?_of_isShortBranch hshort) (by decide)
  · exact absurd (shape?_of_isNearBranch hnear) (by decide)

end Opcode

namespace Encoding

variable {e : Encoding} {shape : Shape}

theorem Valid.length_operand_of_short (h : e.Valid shape) (hop : e.opcode.IsShortBranch) :
    e.operand.length = 1 :=
  h.length_operand (Opcode.shape?_of_isShortBranch hop)

theorem Valid.length_operand_of_near (h : e.Valid shape) (hop : e.opcode.IsNearBranch) :
    e.operand.length = 4 :=
  h.length_operand (Opcode.shape?_of_isNearBranch hop)

theorem Valid.length_displacement_of_isSlotCall (h : e.Valid shape) (hcall : e.IsSlotCall) :
    e.displacement.length = 4 := by
  rcases hcall.2 with ⟨m, hm, _, hmode, hrm⟩
  rw [(valid_iff_wellFormed.1 h).displacement_length, Option.mem_def.1 hm]
  simp [displacementWidth, ModRM.displacementWidth, ModRM.isRipRelative, hmode, hrm]

end Encoding

namespace Insn

variable {i : Insn} {t : Address}

/-! ## What is resolved -/

theorem isSlotCall_iff_kind :
    isSlotCall i.opcode i.modrm = true ↔
      i.kind = .indirectCall ∧ i.modrm.any ModRM.isRipRelative = true := by
  constructor
  · intro h
    simp only [isSlotCall, Bool.and_eq_true, beq_iff_eq] at h
    rcases (Option.any_eq_true _ _).1 h.2 with ⟨m, hm, hreg⟩
    simp only [Bool.and_eq_true, Bool.or_eq_true, beq_iff_eq] at hreg
    refine ⟨kind_eq_indirectCall_iff.2 ⟨h.1, ?_⟩, ?_⟩
    · simpa [reg?, hm] using hreg.1
    · simpa [hm] using hreg.2
  · rintro ⟨hkind, hrip⟩
    exact isSlotCall_of_indirectCall hkind hrip

theorem callTarget?_eq_some_iff :
    i.callTarget? = some t ↔
      (i.opcode = .ofByte 0xe8 ∧ i.relativeTarget = t) ∨
        (isSlotCall i.opcode i.modrm = true ∧ Address.ofInt i.operand = t) := by
  rw [← kind_eq_nearCall_iff, isSlotCall_iff_kind, callTarget?]
  cases i.kind with
  | nearCall => simp
  | indirectCall => simp
  | _ => simp

theorem callTarget?_eq_none_iff :
    i.callTarget? = none ↔ i.opcode ≠ .ofByte 0xe8 ∧ ¬isSlotCall i.opcode i.modrm = true := by
  rw [Option.eq_none_iff_forall_ne_some]
  constructor
  · intro h
    refine ⟨fun op => h _ (callTarget?_eq_some_iff.2 (.inl ⟨op, rfl⟩)), ?_⟩
    exact fun hslot => h _ (callTarget?_eq_some_iff.2 (.inr ⟨hslot, rfl⟩))
  · rintro ⟨hop, hslot⟩ t ht
    rcases callTarget?_eq_some_iff.1 ht with ⟨op, _⟩ | ⟨hcall, _⟩
    · exact hop op
    · exact hslot hcall

/-- Of the jumps, those of the group are not relative. -/
theorem isBranch_iff_kind :
    i.opcode.IsShortBranch ∨ i.opcode.IsNearBranch ↔
      i.kind = .nearCall ∨ i.kind = .conditionalJump ∨
        i.kind = .jump ∧ i.opcode ≠ .ofByte 0xff := by
  rw [kind_eq_nearCall_iff, kind_eq_conditionalJump_iff, kind_eq_jump_iff]
  constructor
  · rintro ((hcond | heb) | he8 | he9 | hcond)
    · exact .inr (.inl (.inl hcond))
    · exact .inr (.inr ⟨.inl (.inr heb), by rw [heb]; decide⟩)
    · exact .inl he8
    · exact .inr (.inr ⟨.inl (.inl he9), by rw [he9]; decide⟩)
    · exact .inr (.inl (.inr hcond))
  · rintro (he8 | (hcond | hcond) | ⟨(he9 | heb) | ⟨hff, _⟩, hne⟩)
    · exact .inr (.inl he8)
    · exact .inl (.inl hcond)
    · exact .inr (.inr (.inr hcond))
    · exact .inr (.inr (.inl he9))
    · exact .inl (.inr heb)
    · exact absurd hff hne

theorem branchTarget?_eq_some_iff :
    i.branchTarget? = some t ↔
      (i.opcode.IsShortBranch ∨ i.opcode.IsNearBranch) ∧ i.relativeTarget = t := by
  have hgroup : Opcode.ofByte 0xff = .group5 := rfl
  rw [isBranch_iff_kind, branchTarget?, hgroup]
  cases i.kind with
  | nearCall => simp
  | conditionalJump => simp
  | jump => simp
  | _ => simp

theorem branchTarget?_eq_none_iff :
    i.branchTarget? = none ↔ ¬(i.opcode.IsShortBranch ∨ i.opcode.IsNearBranch) := by
  rw [Option.eq_none_iff_forall_ne_some]
  constructor
  · intro h hop
    exact h _ (branchTarget?_eq_some_iff.2 ⟨hop, rfl⟩)
  · intro hop t ht
    exact hop (branchTarget?_eq_some_iff.1 ht).1

/-! ## From an encoding -/

/-- The destinations of an instruction are those that its encoding says, where it is. -/
structure ResolvesLike (i : Insn) (e : Encoding) : Prop where
  call : ∀ t, i.callTarget? = some t ↔ e.CallsTo (i.start.toNat + i.length) t
  noCall : i.callTarget? = none ↔ e.opcode ≠ .ofByte 0xe8 ∧ ¬e.IsSlotCall
  branch : ∀ t, i.branchTarget? = some t ↔ e.BranchesTo (i.start.toNat + i.length) t
  noBranch : i.branchTarget? = none ↔ ¬(e.opcode.IsShortBranch ∨ e.opcode.IsNearBranch)
  /-- Calls and jumps of the group are never relative. -/
  group5 : e.opcode = .ofByte 0xff → i.branchTarget? = none
  /-- Only calls have the destination of a call. -/
  kind : ∀ t, i.callTarget? = some t → i.kind = .nearCall ∨ i.kind = .indirectCall

variable {a : Address} {e : Encoding} {shape : Shape}

theorem relativeTarget_ofEncoding_eq_iff (h : ¬e.IsSlotCall) :
    (ofEncoding a e).relativeTarget = t ↔
      Bytes.LeadsTo e.operand (a.toNat + e.toBytes.length) t := by
  rw [Bytes.leadsTo_iff, relativeTarget, operand_ofEncoding_of_not_isSlotCall h]
  rfl

theorem slot_ofEncoding_eq_iff (h : e.IsSlotCall) :
    Address.ofInt (ofEncoding a e).operand = t ↔
      Bytes.LeadsTo e.displacement (a.toNat + e.toBytes.length) t := by
  rw [Bytes.leadsTo_iff, ofInt_operand_of_slotCall h]
  rfl

theorem not_isSlotCall_of_isBranch (h : e.opcode.IsShortBranch ∨ e.opcode.IsNearBranch) :
    ¬e.IsSlotCall := by
  intro hcall
  rw [hcall.1] at h
  exact Opcode.not_isBranch_group5 h

theorem callTarget?_ofEncoding (h : e.Valid shape) :
    (ofEncoding a e).callTarget? = some t ↔ e.CallsTo (a.toNat + e.toBytes.length) t := by
  have hslot : isSlotCall e.opcode e.modrm = true ↔ e.IsSlotCall := Encoding.isSlotCall_iff
  -- The operand of a relative call is not the address of a slot, but the distance in the bytes.
  have hrelative (op : e.opcode = .ofByte 0xe8) := relativeTarget_ofEncoding_eq_iff (a := a) (t := t)
    (not_isSlotCall_of_isBranch (.inr (.inl op)))
  rw [callTarget?_eq_some_iff]
  constructor
  · rintro (⟨op, ht⟩ | ⟨hcall, ht⟩)
    · exact .relative op (h.length_operand_of_near (.inl op)) ((hrelative op).1 ht)
    · have hcall := hslot.1 hcall
      exact .slot hcall (h.length_displacement_of_isSlotCall hcall)
        ((slot_ofEncoding_eq_iff hcall).1 ht)
  · intro ht
    cases ht with
    | relative op _ target => exact .inl ⟨op, (hrelative op).2 target⟩
    | slot hcall _ target => exact .inr ⟨hslot.2 hcall, (slot_ofEncoding_eq_iff hcall).2 target⟩

theorem branchTarget?_ofEncoding (h : e.Valid shape) :
    (ofEncoding a e).branchTarget? = some t ↔ e.BranchesTo (a.toNat + e.toBytes.length) t := by
  have hrelative (op : e.opcode.IsShortBranch ∨ e.opcode.IsNearBranch) :=
    relativeTarget_ofEncoding_eq_iff (a := a) (t := t) (not_isSlotCall_of_isBranch op)
  rw [branchTarget?_eq_some_iff]
  constructor
  · rintro ⟨op | op, ht⟩
    · exact .short op (h.length_operand_of_short op) ((hrelative (.inl op)).1 ht)
    · exact .near op (h.length_operand_of_near op) ((hrelative (.inr op)).1 ht)
  · intro ht
    cases ht with
    | short op _ target => exact ⟨.inl op, (hrelative (.inl op)).2 target⟩
    | near op _ target => exact ⟨.inr op, (hrelative (.inr op)).2 target⟩

theorem resolvesLike_ofEncoding (h : e.Valid shape) : (ofEncoding a e).ResolvesLike e where
  call _ := callTarget?_ofEncoding h
  noCall := by
    rw [callTarget?_eq_none_iff, ← Encoding.isSlotCall_iff]
    rfl
  branch _ := branchTarget?_ofEncoding h
  noBranch := branchTarget?_eq_none_iff
  group5 hop := by
    refine branchTarget?_eq_none_iff.2 ?_
    show ¬(e.opcode.IsShortBranch ∨ e.opcode.IsNearBranch)
    rw [hop]
    exact Opcode.not_isBranch_group5
  kind _ ht := by
    rcases callTarget?_eq_some_iff.1 ht with ⟨op, _⟩ | ⟨hslot, _⟩
    · exact .inl (kind_eq_nearCall_iff.2 op)
    · exact .inr (isSlotCall_iff_kind.1 hslot).1

end Insn

namespace Code

variable {c : Code} {a : Address} {i : Insn}

theorem exists_resolvesLike_of_decode (h : c.decode a = .ok i) :
    ∃ (e : Encoding) (shape : Shape), e.Valid shape ∧ i.Records a e ∧ c.Holds a e.toBytes ∧
      i.ResolvesLike e := by
  rcases exists_ofEncoding_of_decode h with ⟨e, shape, rfl, hvalid, hrecords, hholds⟩
  exact ⟨e, shape, hvalid, hrecords, hholds, Insn.resolvesLike_ofEncoding hvalid⟩

/-- A call that is found was decoded where it says that it starts. -/
theorem decode_of_findCall? {o : ScanOptions} {target : Option Address}
    (h : c.findCall? o target = some i) :
    c.decode i.start = .ok i ∧ ∀ t ∈ target, i.callTarget? = some t := by
  rw [findCall?, findFirst?_eq, instructions_eq_linearInstructions] at h
  have hwanted := Insn.isCallTo_iff.1 (List.find?_some h)
  exact ⟨decode_of_mem_linearInstructions (List.mem_of_find?_eq_some h), hwanted.2⟩

/-- Every decoded instruction has the destinations that its bytes say. A call that is found with a
destination has this one. -/
theorem targets_of_decode (c : Code) :
    (∀ a i, c.decode a = .ok i →
      ∃ (e : Encoding) (shape : Shape), e.Valid shape ∧ i.Records a e ∧ c.Holds a e.toBytes ∧
        i.ResolvesLike e) ∧
      ∀ o t i, c.findCall? o (some t) = some i →
        ∃ (e : Encoding) (shape : Shape), e.Valid shape ∧ i.Records i.start e ∧
          c.Holds i.start e.toBytes ∧ e.CallsTo (i.start.toNat + i.length) t := by
  refine ⟨fun a i h => exists_resolvesLike_of_decode h, ?_⟩
  intro o t i h
  rcases decode_of_findCall? h with ⟨hdecode, htarget⟩
  rcases exists_resolvesLike_of_decode hdecode with ⟨e, shape, hvalid, hrecords, hholds, hresolves⟩
  exact ⟨e, shape, hvalid, hrecords, hholds, (hresolves.call t).1 (htarget t rfl)⟩

/-- A conditional jump to itself at the lower end of the address space, and a far call through a
slot below it, at the upper end. -/
def wrappingCode : Code :=
  ⟨.ofNat 0x10, [0x2e, 0x72, 0xfd, 0x48, 0xff, 0x1d, 0xe0, 0xff, 0xff, 0xff], by decide⟩

theorem targets_of_decode_wrapping :
    (∃ i, wrappingCode.decode (.ofNat 0x10) = .ok i ∧ i.branchTarget? = some (.ofNat 0x10) ∧
      ∃ e shape, e.Valid shape ∧ i.Records (.ofNat 0x10) e ∧ e.BranchesTo 0x13 (.ofNat 0x10)) ∧
      ∃ i, wrappingCode.findCall? {} (some (.ofNat 0xfffffffffffffffa)) = some i ∧
        ∃ e shape, e.Valid shape ∧ i.Records (.ofNat 0x13) e ∧
          e.CallsTo 0x1a (.ofNat 0xfffffffffffffffa) := by
  have hboth := targets_of_decode wrappingCode
  refine ⟨⟨_, rfl, by decide, ?_⟩, ⟨_, rfl, ?_⟩⟩
  · rcases hboth.1 (.ofNat 0x10) _ rfl with ⟨e, shape, hvalid, hrecords, _, hresolves⟩
    exact ⟨e, shape, hvalid, hrecords, (hresolves.branch _).1 (by decide)⟩
  · rcases hboth.2 {} (.ofNat 0xfffffffffffffffa) _ rfl with ⟨e, shape, hvalid, hrecords, _, hcalls⟩
    exact ⟨e, shape, hvalid, hrecords, hcalls⟩

end Code

end CodeSurvey
