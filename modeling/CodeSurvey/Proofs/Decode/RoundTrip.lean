import CodeSurvey.Proofs.Address
import CodeSurvey.Proofs.Decode.Placement
import CodeSurvey.Proofs.Encoding.Format

/-!
# Decoding and the instruction format

Decoding undoes laying out an instruction and nothing else.

* `Insn.Records i a e` : the fields of `i` are those of the encoding `e` at the address `a`, with
  displacement and operand as signed numbers;
* `Code.exists_valid_of_decode` : what is decoded lies in the code as a valid encoding;
* `Code.decode_of_valid` : a valid encoding in the code is decoded, or refused for its length.
-/

namespace CodeSurvey

/-! ## Calls through a slot -/

/-- A call, near or far, through a slot at a distance from the end of the instruction. -/
def Encoding.IsSlotCall (e : Encoding) : Prop :=
  e.opcode = .ofByte 0xff ∧
    ∃ m ∈ e.modrm, (m.reg = 2 ∨ m.reg = 3) ∧ m.mode = .indirect ∧ m.rm = 5

theorem Encoding.isSlotCall_iff {e : Encoding} :
    Insn.isSlotCall e.opcode e.modrm = true ↔ e.IsSlotCall := by
  have hgroup : Opcode.ofByte 0xff = Opcode.group5 := by decide
  rw [Encoding.IsSlotCall, hgroup]
  cases e.modrm with
  | none => simp [Insn.isSlotCall]
  | some m => simp [Insn.isSlotCall, ModRM.isRipRelative]

/-- Such a call has no operand bytes. -/
theorem Encoding.Valid.operand_of_isSlotCall {e : Encoding} {shape : Shape} (h : e.Valid shape)
    (hcall : e.IsSlotCall) : e.operand = [] := by
  have hgroup : (Opcode.ofByte 0xff).shape? = some ⟨true, .empty⟩ := by decide
  have hshape : shape = ⟨true, .empty⟩ := by
    have heq := h.shape_eq
    rw [hcall.1, hgroup] at heq
    exact (Option.some.inj heq).symm
  have hwidth := h.operand
  rw [hshape] at hwidth
  have hlen : e.operand.length = 0 := by
    generalize e.operand.length = n at hwidth
    cases hwidth
    rfl
  exact List.length_eq_zero_iff.1 hlen

/-! ## Recorded fields -/

/-- The instruction records the fields of an encoding at an address. Displacement and operand are
read as two's complement; the operand of a call through a slot is instead the address of the slot,
as a signed number. -/
structure Insn.Records (i : Insn) (a : Address) (e : Encoding) : Prop where
  start : i.start = a
  length : i.length = e.toBytes.length
  prefixes : i.prefixes.Collects e.legacy e.rex
  rex : i.rex = e.rex
  opcode : i.opcode = e.opcode
  modrm : i.modrm = e.modrm
  sib : i.sib = e.sib
  displacement : Bytes.IsTwosComplement e.displacement i.displacement
  operand : ¬e.IsSlotCall → Bytes.IsTwosComplement e.operand i.operand
  slot : e.IsSlotCall → e.operand = [] ∧ -2 ^ 63 ≤ i.operand ∧ i.operand < 2 ^ 63 ∧
    i.operand % 2 ^ 64 = (a.toNat + i.length + i.displacement) % 2 ^ 64

theorem bmod_word (x : Int) :
    -2 ^ 63 ≤ Int.bmod x (2 ^ 64) ∧ Int.bmod x (2 ^ 64) < 2 ^ 63 ∧
      Int.bmod x (2 ^ 64) % 2 ^ 64 = x % 2 ^ 64 := by
  have hpos : 0 < 2 ^ 64 := by decide
  have hlow : -(((2 ^ 64 : Nat) : Int) / 2) ≤ Int.bmod x (2 ^ 64) := Int.le_bmod hpos
  have hhigh : Int.bmod x (2 ^ 64) < (((2 ^ 64 : Nat) : Int) + 1) / 2 := Int.bmod_lt hpos
  have hmod : Int.bmod x (2 ^ 64) % ((2 ^ 64 : Nat) : Int) = x % ((2 ^ 64 : Nat) : Int) :=
    Int.bmod_emod
  generalize Int.bmod x (2 ^ 64) = v at hlow hhigh hmod ⊢
  exact ⟨by omega, by omega, by exact_mod_cast hmod⟩

theorem Insn.slot_ofEncoding {a : Address} {e : Encoding} (hcall : e.IsSlotCall) :
    -2 ^ 63 ≤ (ofEncoding a e).operand ∧ (ofEncoding a e).operand < 2 ^ 63 ∧
      (ofEncoding a e).operand % 2 ^ 64 =
        (a.toNat + (ofEncoding a e).length + (ofEncoding a e).displacement) % 2 ^ 64 := by
  have hcond : isSlotCall e.opcode e.modrm = true := Encoding.isSlotCall_iff.2 hcall
  have hoperand : (ofEncoding a e).operand =
      Int.bmod ((a + e.toBytes.length).offset (Bytes.signed e.displacement)).toNat (2 ^ 64) :=
    operand_ofEncoding_of_slotCall hcond a
  have hlength : (ofEncoding a e).length = e.toBytes.length := rfl
  have hdisp : (ofEncoding a e).displacement = Bytes.signed e.displacement := rfl
  have hoffset := Address.toNat_offset (a + e.toBytes.length) (Bytes.signed e.displacement)
  have hend := Address.toNat_add a e.toBytes.length
  rw [hoperand, hlength, hdisp]
  rcases bmod_word ((a + e.toBytes.length).offset (Bytes.signed e.displacement)).toNat with
    ⟨hlow, hhigh, hmod⟩
  refine ⟨hlow, hhigh, ?_⟩
  -- The end of the instruction, the slot and its signed form each wrap; the residue stays.
  rw [hmod, hoffset]
  omega

theorem Insn.operand_ofEncoding_of_not_isSlotCall {a : Address} {e : Encoding}
    (h : ¬e.IsSlotCall) : (ofEncoding a e).operand = Bytes.signed e.operand :=
  operand_ofEncoding_of_not_slotCall (mt Encoding.isSlotCall_iff.1 h) a

theorem Insn.records_ofEncoding {a : Address} {e : Encoding} {shape : Shape} (h : e.Valid shape) :
    (ofEncoding a e).Records a e := by
  refine ⟨rfl, rfl, e.prefixes_collects, rfl, rfl, rfl, rfl,
    Bytes.isTwosComplement_signed e.displacement, ?_, ?_⟩
  · intro hcall
    rw [operand_ofEncoding_of_not_isSlotCall hcall]
    exact Bytes.isTwosComplement_signed e.operand
  · intro hcall
    exact ⟨h.operand_of_isSlotCall hcall, slot_ofEncoding hcall⟩

namespace Code

/-! ## Decoded instructions are valid encodings -/

/-- Decoding is sound: the bytes of a decoded instruction are a valid encoding of its fields. -/
theorem exists_valid_of_decode {c : Code} {a : Address} {i : Insn} (h : c.decode a = .ok i) :
    ∃ (e : Encoding) (shape : Shape),
      e.Valid shape ∧ i.Records a e ∧ c.Holds a e.toBytes ∧ i.bytesIn? c = some e.toBytes := by
  rcases Insn.decodeBytes_eq_ok_iff.1 (decodeBytes_of_decode h) with
    ⟨e, shape, rest, hwf, hbytes, _, rfl⟩
  have hvalid : e.Valid shape := Encoding.valid_iff_wellFormed.2 hwf
  have hfrom : c.bytesFrom? a = some (e.toBytes ++ rest) := by
    rw [bytesFrom?_of_contains (contains_of_decode h), hbytes]
  refine ⟨e, shape, hvalid, Insn.records_ofEncoding hvalid, ?_, ?_⟩
  · exact (holds_iff_bytesFrom? (List.length_pos_iff.1 e.length_toBytes_pos)).2 ⟨rest, hfrom⟩
  · have hstart : (Insn.ofEncoding a e).start = a := rfl
    have hlength : (Insn.ofEncoding a e).length = e.toBytes.length := rfl
    simp [Insn.bytesIn?, hstart, hlength, hfrom]

/-- A far call through a slot, with two prefixes and a REX byte, between two other instructions. -/
def slotCallCode : Code :=
  ⟨.ofNat 0x401000, [0xcc, 0xf3, 0x66, 0x41, 0xff, 0x1d, 0x00, 0x01, 0x00, 0x00, 0x90], by decide⟩

theorem exists_valid_of_decode_slotCall :
    ∃ i, slotCallCode.decode (.ofNat 0x401001) = .ok i ∧
      ∃ (e : Encoding) (shape : Shape), e.Valid shape ∧ i.Records (.ofNat 0x401001) e ∧
        slotCallCode.Holds (.ofNat 0x401001) e.toBytes ∧
          i.bytesIn? slotCallCode = some e.toBytes :=
  ⟨_, rfl, exists_valid_of_decode rfl⟩

/-! ## Valid encodings are decoded -/

/-- Decoding is complete: a valid encoding is decoded to its fields wherever it lies, and refused
for its length exactly when it is longer than the limit. -/
theorem decode_of_valid {c : Code} {a : Address} {e : Encoding} {shape : Shape}
    (h : e.Valid shape) :
    (e.toBytes.length ≤ 15 → c.Holds a e.toBytes → ∃ i, c.decode a = .ok i ∧ i.Records a e) ∧
      (15 < e.toBytes.length → c.Holds a (e.toBytes.take 15) →
        c.decode a = .error (.tooLong a)) := by
  have hwf : e.WellFormed shape := Encoding.valid_iff_wellFormed.1 h
  constructor
  · intro hlen hholds
    rcases (holds_iff_bytesFrom? (List.length_pos_iff.1 e.length_toBytes_pos)).1 hholds with
      ⟨rest, hfrom⟩
    refine ⟨Insn.ofEncoding a e, ?_, Insn.records_ofEncoding h⟩
    rw [decode_of_bytesFrom? hfrom]
    exact Insn.decodeBytes_eq_ok_iff.2 ⟨e, shape, rest, hwf, rfl, hlen, rfl⟩
  · intro hlong hholds
    have hcut : (e.toBytes.take 15).length = 15 := List.length_take_of_le (Nat.le_of_lt hlong)
    have hne : e.toBytes.take 15 ≠ [] := List.length_pos_iff.1 (by omega)
    rcases (holds_iff_bytesFrom? hne).1 hholds with ⟨rest, hfrom⟩
    rw [decode_of_bytesFrom? hfrom]
    refine Insn.decodeBytes_eq_tooLong hwf hlong ?_
    exact List.take_left' hcut

/-- A store of a 32-bit constant through a SIB byte, behind some segment prefixes: twelve bytes and
one for each prefix. -/
def scaledStore (count : Nat) : Encoding :=
  { legacy := List.replicate count 0x2e
    rex := some 0x48
    opcode := .ofByte 0xc7
    modrm := some ⟨0x84⟩
    sib := some 0x24
    displacement := [0xf8, 0xff, 0xff, 0xff]
    operand := [0x00, 0x00, 0x00, 0x80] }

theorem scaledStore_valid (count : Nat) : (scaledStore count).Valid ⟨true, .immZ⟩ := by
  have hlegacy : ∀ b ∈ (scaledStore count).legacy, b = 0x2e := by
    intro b hb
    exact List.eq_of_mem_replicate hb
  have hshape : (Opcode.ofByte 0xc7).shape? = some ⟨true, .immZ⟩ := by decide
  refine ⟨?_, ?_, ⟨0xc7, .inl rfl⟩, hshape, ⟨fun _ => rfl, fun _ => rfl⟩, ?_, ?_, ?_⟩
  · intro b hb
    rw [hlegacy b hb]
    decide
  · rintro b ⟨⟩
    decide
  · exact ⟨fun _ => ⟨⟨0x84⟩, rfl, by decide, by decide⟩, fun _ => rfl⟩
  · exact .long _ (by decide)
  · exact .immZ fun hmem => absurd (hlegacy 0x66 hmem) (by decide)

theorem decode_of_valid_scaledStore :
    (∃ i, decode ⟨.ofNat 0x1000, 0x90 :: (scaledStore 3).toBytes ++ [0xc3], by decide⟩
        (.ofNat 0x1001) = .ok i ∧ i.Records (.ofNat 0x1001) (scaledStore 3)) ∧
      decode ⟨.ofNat 0x1000, 0x90 :: (scaledStore 4).toBytes.take 15, by decide⟩
        (.ofNat 0x1001) = .error (.tooLong (.ofNat 0x1001)) :=
  ⟨(decode_of_valid (scaledStore_valid 3)).1 (by decide) ⟨[0x90], [0xc3], by decide, by decide⟩,
    (decode_of_valid (scaledStore_valid 4)).2 (by decide) ⟨[0x90], [], by decide, by decide⟩⟩

end Code

end CodeSurvey
