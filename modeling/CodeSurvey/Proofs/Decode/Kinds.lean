import CodeSurvey.Proofs.Decode.Relocation
import CodeSurvey.Proofs.Decode.RoundTrip
import CodeSurvey.Proofs.Encoding.Faults
import CodeSurvey.Proofs.Narrowing

/-!
# Kinds by opcode

The kind of an instruction, as a table over opcode bytes. For three opcodes more than the opcode is
asked: for hint no-ops the repeat prefix and the ModRM byte, for `90` the REX byte, and for the
group of indirect calls and jumps the ModRM field `reg`.

* `Opcode.isConditionalJump_iff` : the two rows of conditional jumps;
* `Insn.HasKind i k` : the table, one constructor for each row;
* `Insn.hasKind_iff` : the table is what `Insn.kind` computes;
* `Insn.kind_eq_nop_iff` and its like : the rows of one kind;
* `Code.exists_ofEncoding_of_decode` : the fields that the table is about are those in the bytes.
-/

namespace CodeSurvey

namespace Opcode

/-- The opcodes `70` to `7f`. -/
def IsShortConditional (op : Opcode) : Prop :=
  ∃ b : UInt8, op = .ofByte b ∧ 0x70 ≤ b.toNat ∧ b.toNat ≤ 0x7f

/-- The opcodes `0f 80` to `0f 8f`. -/
def IsNearConditional (op : Opcode) : Prop :=
  ∃ b : UInt8, op = .ofEscaped b ∧ 0x80 ≤ b.toNat ∧ b.toNat ≤ 0x8f

theorem isConditionalJump_iff_toNat {op : Opcode} :
    op.isConditionalJump = true ↔
      (0x70 ≤ op.raw.toNat ∧ op.raw.toNat ≤ 0x7f) ∨
        (0x0f80 ≤ op.raw.toNat ∧ op.raw.toNat ≤ 0x0f8f) := by
  simp [isConditionalJump, UInt16.le_iff_toNat_le]

theorem isConditionalJump_iff {op : Opcode} :
    op.isConditionalJump = true ↔ op.IsShortConditional ∨ op.IsNearConditional := by
  have hlow : op.low.toNat = op.raw.toNat % 256 := UInt16.toNat_toUInt8 op.raw
  rw [isConditionalJump_iff_toNat]
  constructor
  · -- The last byte of the opcode is the one that the row is about.
    rintro (⟨hge, hle⟩ | ⟨hge, hle⟩)
    · refine .inl ⟨op.low, eq_of_toNat_raw ?_, by omega, by omega⟩
      rw [toNat_raw_ofByte]
      omega
    · refine .inr ⟨op.low, eq_of_toNat_raw ?_, by omega, by omega⟩
      rw [toNat_raw_ofEscaped]
      omega
  · rintro (⟨b, rfl, hge, hle⟩ | ⟨b, rfl, hge, hle⟩)
    · rw [toNat_raw_ofByte]
      omega
    · rw [toNat_raw_ofEscaped]
      omega

end Opcode

namespace Insn

variable {i : Insn} {k : InsnKind}

/-- What an instruction has to be to be of a kind. What no row is about is of the kind `other`. -/
inductive HasKind (i : Insn) : InsnKind → Prop where
  | nearCall (op : i.opcode = .ofByte 0xe8) : HasKind i .nearCall
  | jump (op : i.opcode = .ofByte 0xe9 ∨ i.opcode = .ofByte 0xeb) : HasKind i .jump
  | conditionalJump (op : i.opcode.IsShortConditional ∨ i.opcode.IsNearConditional) :
      HasKind i .conditionalJump
  | lea (op : i.opcode = .ofByte 0x8d) : HasKind i .lea
  | hint (op : i.opcode = .ofEscaped 0x1e) (rep : i.prefixes.rep = false) : HasKind i .nop
  | landingPad {m : ModRM} (op : i.opcode = .ofEscaped 0x1e) (rep : i.prefixes.rep = true)
      (modrm : i.modrm = some m) (raw : m.raw = 0xfa ∨ m.raw = 0xfb) : HasKind i .landingPad
  | nopRm (op : i.opcode = .ofEscaped 0x1f) : HasKind i .nop
  | nop (op : i.opcode = .ofByte 0x90) (rexB : i.rexB = false) : HasKind i .nop
  | int3 (op : i.opcode = .ofByte 0xcc) : HasKind i .int3
  | ret (op : i.opcode = .ofByte 0xc2 ∨ i.opcode = .ofByte 0xc3) : HasKind i .ret
  | indirectCall (op : i.opcode = .ofByte 0xff) (reg : i.reg? = some 2 ∨ i.reg? = some 3) :
      HasKind i .indirectCall
  | indirectJump (op : i.opcode = .ofByte 0xff) (reg : i.reg? = some 4 ∨ i.reg? = some 5) :
      HasKind i .jump

/-! ## The table and the function -/

/-- Both sides of a choice have their rows, each where it is taken. -/
theorem hasKind_ite {c : Prop} [Decidable c] {k' : InsnKind} (hpos : c → k ≠ .other → i.HasKind k)
    (hneg : ¬c → k' ≠ .other → i.HasKind k') :
    (if c then k else k') ≠ .other → i.HasKind (if c then k else k') := by
  split
  · next h => exact hpos h
  · next h => exact hneg h

theorem hasKind_hintKind (op : i.opcode = .ofEscaped 0x1e) :
    i.hintKind ≠ .other → i.HasKind i.hintKind := by
  refine hasKind_ite (fun hrep _ => .hint op (by simpa using hrep)) fun hrep => ?_
  refine hasKind_ite (fun hraw _ => ?_) fun _ hother => absurd rfl hother
  rcases (Option.any_eq_true _ _).1 hraw with ⟨m, hm, hmraw⟩
  exact .landingPad op (by simpa using hrep) hm (by simpa using hmraw)

theorem hasKind_group5Kind (op : i.opcode = .ofByte 0xff) :
    i.group5Kind ≠ .other → i.HasKind i.group5Kind := by
  unfold group5Kind
  split
  · next hreg => exact fun _ => .indirectCall op (.inl hreg)
  · next hreg => exact fun _ => .indirectCall op (.inr hreg)
  · next hreg => exact fun _ => .indirectJump op (.inl hreg)
  · next hreg => exact fun _ => .indirectJump op (.inr hreg)
  · exact fun hother => absurd rfl hother

/-- The function follows the rows of the table from the top. -/
theorem hasKind_kind : i.kind ≠ .other → i.HasKind i.kind := by
  rw [kind]
  refine hasKind_ite (fun op _ => .nearCall op) fun _ => ?_
  refine hasKind_ite (fun op _ => .jump op) fun _ => ?_
  refine hasKind_ite (fun op _ => .conditionalJump (Opcode.isConditionalJump_iff.1 op)) fun _ => ?_
  refine hasKind_ite (fun op _ => .lea op) fun _ => ?_
  refine hasKind_ite hasKind_hintKind fun _ => ?_
  refine hasKind_ite (fun op _ => .nopRm op) fun _ => ?_
  refine hasKind_ite (fun op => ?_) fun _ => ?_
  · refine hasKind_ite (fun _ hother => absurd rfl hother) fun hrex _ => ?_
    exact .nop op (Bool.eq_false_iff.2 hrex)
  refine hasKind_ite (fun op _ => .int3 op) fun _ => ?_
  refine hasKind_ite (fun op _ => .ret op.symm) fun _ => ?_
  exact hasKind_ite hasKind_group5Kind fun _ hother => absurd rfl hother

theorem kind_of_conditionalJump (h : i.opcode.isConditionalJump = true) :
    i.kind = .conditionalJump := by
  have hcall : i.opcode ≠ .callRel32 := fun hop => absurd (hop ▸ h) (by decide)
  have hjump : ¬(i.opcode = .jmpRel32 ∨ i.opcode = .jmpRel8) := by
    rintro (hop | hop)
    · exact absurd (hop ▸ h) (by decide)
    · exact absurd (hop ▸ h) (by decide)
  rw [kind, if_neg hcall, if_neg hjump, if_pos h]

/-- With the opcode put in, the rows above it are seen not to apply. -/
theorem kind_of_opcode {op : Opcode} (h : i.opcode = op) : i.kind = { i with opcode := op }.kind := by
  rw [← h]

theorem HasKind.kind_eq (h : i.HasKind k) : i.kind = k := by
  cases h with
  | nearCall op => exact kind_of_opcode op
  | jump op =>
    rcases op with op | op
    · exact kind_of_opcode op
    · exact kind_of_opcode op
  | conditionalJump op => exact kind_of_conditionalJump (Opcode.isConditionalJump_iff.2 op)
  | lea op => exact kind_of_opcode op
  | hint op rep =>
    have hhint : i.hintKind = .nop := by rw [hintKind, rep]; rfl
    exact (kind_of_opcode op).trans hhint
  | landingPad op rep modrm raw =>
    have hhint : i.hintKind = .landingPad := by simp [hintKind, rep, modrm, raw]
    exact (kind_of_opcode op).trans hhint
  | nopRm op => exact kind_of_opcode op
  | nop op rexB =>
    have hnop : (if i.rexB then InsnKind.other else .nop) = .nop := by rw [rexB]; rfl
    exact (kind_of_opcode op).trans hnop
  | int3 op => exact kind_of_opcode op
  | ret op =>
    rcases op with op | op
    · exact kind_of_opcode op
    · exact kind_of_opcode op
  | indirectCall op reg => exact (kind_of_group5 op).trans (group5Kind_eq_indirectCall_iff.2 reg)
  | indirectJump op reg =>
    rcases reg with reg | reg
    · exact (kind_of_group5 op).trans (by rw [group5Kind, reg]; rfl)
    · exact (kind_of_group5 op).trans (by rw [group5Kind, reg]; rfl)

theorem hasKind_iff (hk : k ≠ .other) : i.HasKind k ↔ i.kind = k := by
  constructor
  · exact HasKind.kind_eq
  · rintro rfl
    exact hasKind_kind hk

/-! ## The rows of one kind -/

theorem kind_eq_nearCall_iff : i.kind = .nearCall ↔ i.opcode = .ofByte 0xe8 := by
  rw [← hasKind_iff (by decide)]
  exact ⟨fun | .nearCall op => op, .nearCall⟩

theorem kind_eq_indirectCall_iff :
    i.kind = .indirectCall ↔
      i.opcode = .ofByte 0xff ∧ (i.reg? = some 2 ∨ i.reg? = some 3) := by
  rw [← hasKind_iff (by decide)]
  exact ⟨fun | .indirectCall op reg => ⟨op, reg⟩, fun h => .indirectCall h.1 h.2⟩

theorem kind_eq_conditionalJump_iff :
    i.kind = .conditionalJump ↔ i.opcode.IsShortConditional ∨ i.opcode.IsNearConditional := by
  rw [← hasKind_iff (by decide)]
  exact ⟨fun | .conditionalJump op => op, .conditionalJump⟩

theorem kind_eq_jump_iff :
    i.kind = .jump ↔
      (i.opcode = .ofByte 0xe9 ∨ i.opcode = .ofByte 0xeb) ∨
        i.opcode = .ofByte 0xff ∧ (i.reg? = some 4 ∨ i.reg? = some 5) := by
  rw [← hasKind_iff (by decide)]
  constructor
  · intro h
    cases h with
    | jump op => exact .inl op
    | indirectJump op reg => exact .inr ⟨op, reg⟩
  · rintro (op | ⟨op, reg⟩)
    · exact .jump op
    · exact .indirectJump op reg

theorem kind_eq_landingPad_iff :
    i.kind = .landingPad ↔
      i.opcode = .ofEscaped 0x1e ∧ i.prefixes.rep = true ∧
        ∃ m, i.modrm = some m ∧ (m.raw = 0xfa ∨ m.raw = 0xfb) := by
  rw [← hasKind_iff (by decide)]
  constructor
  · intro h
    cases h with
    | landingPad op rep modrm raw => exact ⟨op, rep, _, modrm, raw⟩
  · rintro ⟨op, rep, m, modrm, raw⟩
    exact .landingPad op rep modrm raw

theorem kind_eq_int3_iff : i.kind = .int3 ↔ i.opcode = .ofByte 0xcc := by
  rw [← hasKind_iff (by decide)]
  exact ⟨fun | .int3 op => op, .int3⟩

theorem kind_eq_nop_iff :
    i.kind = .nop ↔
      (i.opcode = .ofEscaped 0x1e ∧ i.prefixes.rep = false) ∨ i.opcode = .ofEscaped 0x1f ∨
        (i.opcode = .ofByte 0x90 ∧ i.rexB = false) := by
  rw [← hasKind_iff (by decide)]
  constructor
  · intro h
    cases h with
    | hint op rep => exact .inl ⟨op, rep⟩
    | nopRm op => exact .inr (.inl op)
    | nop op rexB => exact .inr (.inr ⟨op, rexB⟩)
  · rintro (⟨op, rep⟩ | op | ⟨op, rexB⟩)
    · exact .hint op rep
    · exact .nopRm op
    · exact .nop op rexB

end Insn

/-! ## Decoded instructions -/

/-- What is decoded is made from the fields of a valid encoding that lies at the address. -/
theorem Code.exists_ofEncoding_of_decode {c : Code} {a : Address} {i : Insn}
    (h : c.decode a = .ok i) :
    ∃ (e : Encoding) (shape : Shape), i = .ofEncoding a e ∧ e.Valid shape ∧ i.Records a e ∧
      c.Holds a e.toBytes := by
  rcases decode_eq_ok_iff.1 h with ⟨e, shape, hwf, _, hholds, rfl⟩
  have hvalid := Encoding.valid_iff_wellFormed.2 hwf
  exact ⟨e, shape, rfl, hvalid, Insn.records_ofEncoding hvalid, hholds⟩

end CodeSurvey
