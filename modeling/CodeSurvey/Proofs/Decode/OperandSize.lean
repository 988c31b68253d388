import CodeSurvey.Proofs.Decode.FrontPart
import CodeSurvey.Proofs.Decode.RoundTrip

/-!
# Operand-size prefixes under REX.W

A prefix `66` in front of an instruction that has REX.W. Constants that REX.W makes eight bytes wide
stay so, and so do all operands that no prefix changes. Constants of four bytes do not: REX.W leaves
them as they are, and the prefix cuts them to two.

* `Encoding.HasFullImmediate` : the instructions with such a constant;
* `Encoding.prefixed` : an encoding behind a prefix `66`;
* `Encoding.Valid.prefixed_of_not_full`, `prefixed_of_full` : which operand it has there;
* `Bytes.signed_take` : a number that is cut is the old one modulo what is left;
* `Code.decode_prefixed` : what is decoded.
-/

namespace CodeSurvey

/-! ## Numbers that are cut -/

namespace Bytes

theorem little_append (front back : List UInt8) :
    little (front ++ back) = little front + 256 ^ front.length * little back := by
  induction front with
  | nil => simp [little]
  | cons b front ih =>
    calc
      little (b :: front ++ back) = b.toNat + 256 * little (front ++ back) := rfl
      _ = b.toNat + 256 * (little front + 256 ^ front.length * little back) := by rw [ih]
      _ = b.toNat + 256 * little front + 256 * 256 ^ front.length * little back := by
        rw [Nat.mul_add, Nat.add_assoc, Nat.mul_assoc]
      _ = little (b :: front) + 256 ^ (b :: front).length * little back := by
        rw [little, List.length_cons, Nat.pow_succ, Nat.mul_comm (256 ^ front.length)]

/-- The bytes that are cut off stand for a multiple of what the others can hold. -/
theorem little_take {bs : List UInt8} {n : Nat} (hn : n ≤ bs.length) :
    little (bs.take n) = little bs % 256 ^ n := by
  have hlength : (bs.take n).length = n := List.length_take_of_le hn
  have hlt : little (bs.take n) < 256 ^ n := by
    have hbound := little_lt (bs.take n)
    rwa [hlength] at hbound
  have hsplit : little bs = little (bs.take n) + 256 ^ n * little (bs.drop n) := by
    have happend := little_append (bs.take n) (bs.drop n)
    rwa [List.take_append_drop, hlength] at happend
  rw [hsplit, Nat.add_mul_mod_self_left, Nat.mod_eq_of_lt hlt]

/-- The bytes that are kept are the old number modulo what they can hold. -/
theorem signed_take {bs : List UInt8} {n : Nat} (hn : n ≤ bs.length) :
    signed (bs.take n) = Int.bmod (signed bs) (256 ^ n) := by
  have hdvd : 256 ^ n ∣ 256 ^ bs.length := Nat.pow_dvd_pow 256 hn
  have hcast : ((little bs % 256 ^ n : Nat) : Int) = (little bs : Int) % ((256 ^ n : Nat) : Int) :=
    Int.natCast_emod (little bs) (256 ^ n)
  calc
    signed (bs.take n) = Int.bmod (little (bs.take n)) (256 ^ (bs.take n).length) :=
      signed_eq_bmod _
    _ = Int.bmod ((little bs : Int) % ((256 ^ n : Nat) : Int)) (256 ^ n) := by
      rw [little_take hn, List.length_take_of_le hn, hcast]
    _ = Int.bmod (little bs) (256 ^ n) := Int.emod_bmod _ _
    _ = Int.bmod (Int.bmod (little bs) (256 ^ bs.length)) (256 ^ n) :=
      (Int.bmod_bmod_of_dvd hdvd).symm
    _ = Int.bmod (signed bs) (256 ^ n) := by rw [signed_eq_bmod]

end Bytes

/-! ## Constants of four bytes -/

/-- An operand of four bytes whatever REX.W says, and of two under an operand-size prefix. -/
def OperandKind.IsFull (kind : OperandKind) (reg : Nat) : Prop :=
  kind = .immZ ∨ kind = .testGroup true ∧ reg ≤ 1

namespace OperandWidth

variable {short short' wide : Prop} {reg n : Nat} {kind : OperandKind}

/-- Under REX.W all other operands are as wide with an operand-size prefix as without it. -/
theorem of_not_full (hwide : wide) (hfull : ¬kind.IsFull reg) (h : OperandWidth short wide reg kind n) :
    OperandWidth short' wide reg kind n := by
  cases h with
  | empty => exact .empty
  | imm8 => exact .imm8
  | rel8 => exact .rel8
  | imm16 => exact .imm16
  | rel32 => exact .rel32
  | immZ_short _ => exact absurd (.inl rfl) hfull
  | immZ _ => exact absurd (.inl rfl) hfull
  | immV_wide _ => exact .immV_wide hwide
  | immV_short hnarrow _ => exact absurd hwide hnarrow
  | immV hnarrow _ => exact absurd hwide hnarrow
  | noTest wideTest hr => exact .noTest wideTest hr
  | testByte hr => exact .testByte hr
  | test_short hr _ => exact absurd (.inr ⟨rfl, hr⟩) hfull
  | test hr _ => exact absurd (.inr ⟨rfl, hr⟩) hfull

theorem of_full (hlong : ¬short) (hfull : kind.IsFull reg) (h : OperandWidth short wide reg kind n) :
    n = 4 := by
  rcases hfull with rfl | ⟨rfl, hr⟩
  · cases h with
    | immZ_short hs => exact absurd hs hlong
    | immZ _ => rfl
  · cases h with
    | noTest _ hno => omega
    | test_short _ hs => exact absurd hs hlong
    | test _ _ => rfl

theorem two_of_full (hshort : short) (hfull : kind.IsFull reg) :
    OperandWidth short wide reg kind 2 := by
  rcases hfull with rfl | ⟨rfl, hr⟩
  · exact .immZ_short hshort
  · exact .test_short hr hshort

end OperandWidth

/-- The opcode bytes that such a constant follows: arithmetic with the accumulator, pushes,
products, arithmetic, tests of the accumulator and stores. -/
def fullImmediateBytes : List UInt8 :=
  [0x05, 0x0d, 0x15, 0x1d, 0x25, 0x2d, 0x35, 0x3d, 0x68, 0x69, 0x81, 0xa9, 0xc7]

/-- One of these instructions, or a test of a register or of memory. -/
def Encoding.HasFullImmediate (e : Encoding) : Prop :=
  (∃ b ∈ fullImmediateBytes, e.opcode = .ofByte b) ∨
    e.opcode = .ofByte 0xf7 ∧ ∃ m ∈ e.modrm, m.reg ≤ 1

namespace Opcode

theorem ofByte_inj {b b' : UInt8} : ofByte b = ofByte b' ↔ b = b' := by
  constructor
  · intro h
    rw [← low_ofByte b, h, low_ofByte]
  · rintro rfl
    rfl

theorem ofEscaped_ne_ofByte (b b' : UInt8) : ofEscaped b ≠ ofByte b' := by
  intro h
  have hbytes := congrArg bytes h
  rw [bytes_ofEscaped, bytes_ofByte] at hbytes
  cases hbytes

/-- The opcodes of one kind of operand, if they have one byte each. -/
theorem operand_eq_iff {op : Opcode} {shape : Shape} {kind : OperandKind} {bytes : List UInt8}
    (hone : ∀ b, (ofByte b).shape?.map Shape.operand = some kind ↔ b ∈ bytes)
    (htwo : ∀ b, (ofEscaped b).shape?.map Shape.operand ≠ some kind) (hop : op.IsEncodable)
    (hshape : op.shape? = some shape) :
    shape.operand = kind ↔ ∃ b ∈ bytes, op = ofByte b := by
  rcases hop with ⟨b, rfl | rfl⟩
  · have hb := hone b
    rw [hshape, Option.map_some, Option.some.injEq] at hb
    simp [hb, ofByte_inj]
  · have hb := htwo b
    rw [hshape, Option.map_some, ne_eq, Option.some.injEq] at hb
    simp [hb, ofEscaped_ne_ofByte]

theorem operand_eq_immZ_iff {op : Opcode} {shape : Shape} (hop : op.IsEncodable)
    (hshape : op.shape? = some shape) :
    shape.operand = .immZ ↔ ∃ b ∈ fullImmediateBytes, op = ofByte b := by
  refine operand_eq_iff ?_ ?_ hop hshape
  · apply forall_byte
    decide +kernel
  · apply forall_byte
    decide +kernel

theorem operand_eq_testGroup_iff {op : Opcode} {shape : Shape} (hop : op.IsEncodable)
    (hshape : op.shape? = some shape) : shape.operand = .testGroup true ↔ op = ofByte 0xf7 := by
  have htest : shape.operand = .testGroup true ↔ ∃ b ∈ [0xf7], op = ofByte b := by
    refine operand_eq_iff ?_ ?_ hop hshape
    · apply forall_byte
      decide +kernel
    · apply forall_byte
      decide +kernel
  simpa using htest

end Opcode

namespace Encoding

variable {e : Encoding} {shape : Shape}

/-- The instructions with a constant of four bytes, by their opcodes. -/
theorem Valid.isFull_iff (h : e.Valid shape) :
    shape.operand.IsFull (regField e.modrm) ↔ e.HasFullImmediate := by
  rw [OperandKind.IsFull, HasFullImmediate, Opcode.operand_eq_immZ_iff h.opcode h.shape_eq,
    Opcode.operand_eq_testGroup_iff h.opcode h.shape_eq]
  refine or_congr_right (and_congr_right ?_)
  -- A test always has a ModRM byte, so the field is not the zero of a missing one.
  intro htest
  have hshape : (Opcode.ofByte 0xf7).shape? = some ⟨true, .testGroup true⟩ := by decide
  have hmodrm : e.modrm.isSome = true := by
    have heq := h.shape_eq
    rw [htest, hshape, Option.some.injEq] at heq
    rw [h.modrm, ← heq]
  rcases Option.isSome_iff_exists.1 hmodrm with ⟨m, hm⟩
  simp [hm, regField]

/-! ## Behind a prefix -/

/-- The encoding behind an operand-size prefix, with the first `width` bytes of its operand. -/
def prefixed (e : Encoding) (width : Nat) : Encoding :=
  { e with legacy := 0x66 :: e.legacy, operand := e.operand.take width }

/-- What is not kept of the operand is left over behind the instruction. -/
theorem toBytes_prefixed (e : Encoding) (width : Nat) :
    (e.prefixed width).toBytes ++ e.operand.drop width = 0x66 :: e.toBytes := by
  simp [prefixed, toBytes, List.append_assoc]

theorem length_toBytes_prefixed (e : Encoding) (width : Nat) :
    (e.prefixed width).toBytes.length + (e.operand.length - width) = e.toBytes.length + 1 := by
  have hlength := congrArg List.length (e.toBytes_prefixed width)
  rw [List.length_append, List.length_drop, List.length_cons] at hlength
  exact hlength

theorem Valid.prefixed (h : e.Valid shape) {width : Nat} (hle : width ≤ e.operand.length)
    (hwidth : OperandWidth (0x66 ∈ 0x66 :: e.legacy) (rexW e.rex = true) (regField e.modrm)
      shape.operand width) : (e.prefixed width).Valid shape := by
  refine ⟨?_, h.rex, h.opcode, h.shape_eq, h.modrm, h.sib, h.displacement, ?_⟩
  · intro b hb
    rcases List.mem_cons.1 hb with rfl | hb
    · decide
    · exact h.legacy b hb
  · show OperandWidth _ _ _ _ (e.operand.take width).length
    rw [List.length_take_of_le hle]
    exact hwidth

/-- Under REX.W an operand keeps its bytes unless it is a constant of four bytes. -/
theorem Valid.prefixed_of_not_full (h : e.Valid shape) (hwide : rexW e.rex = true)
    (hfull : ¬e.HasFullImmediate) : (e.prefixed e.operand.length).Valid shape := by
  have hkind : ¬shape.operand.IsFull (regField e.modrm) := mt h.isFull_iff.1 hfull
  exact h.prefixed (Nat.le_refl _) (h.operand.of_not_full hwide hkind)

/-- A constant of four bytes is cut to two, with REX.W and without it. -/
theorem Valid.prefixed_of_full (h : e.Valid shape) (hno : 0x66 ∉ e.legacy)
    (hfull : e.HasFullImmediate) : e.operand.length = 4 ∧ (e.prefixed 2).Valid shape := by
  have hkind : shape.operand.IsFull (regField e.modrm) := h.isFull_iff.2 hfull
  have hlength : e.operand.length = 4 := h.operand.of_full hno hkind
  exact ⟨hlength, h.prefixed (by omega) (.two_of_full List.mem_cons_self hkind)⟩

end Encoding

/-! ## Decoding behind a prefix -/

namespace Insn

/-- An encoding that is valid behind the prefix is decoded there. -/
theorem decodeBytes_prefixed {a : Address} {e : Encoding} {shape : Shape} {width : Nat}
    (h : (e.prefixed width).Valid shape) (hlen : (e.prefixed width).toBytes.length ≤ maxLength)
    (rest : List UInt8) :
    decodeBytes a (0x66 :: (e.toBytes ++ rest)) = .ok (ofEncoding a (e.prefixed width)) := by
  refine decodeBytes_eq_ok_iff.2 ⟨e.prefixed width, shape, e.operand.drop width ++ rest,
    Encoding.valid_iff_wellFormed.1 h, ?_, hlen, rfl⟩
  rw [← List.append_assoc, e.toBytes_prefixed width, List.cons_append]

/-- The operand of a call through a slot is the slot, which is told from the end of the call. -/
theorem ofInt_operand_of_slotCall {a : Address} {e : Encoding} (h : e.IsSlotCall) :
    Address.ofInt (ofEncoding a e).operand =
      (ofEncoding a e).stop.offset (ofEncoding a e).displacement := by
  rw [operand_ofEncoding_of_slotCall (Encoding.isSlotCall_iff.2 h), Address.ofInt_bmod,
    Address.ofInt_toNat]
  rfl

theorem operand_prefixed {a : Address} {e : Encoding} (h : ¬e.IsSlotCall) (width : Nat) :
    (ofEncoding a (e.prefixed width)).operand = Bytes.signed (e.operand.take width) := by
  have hnew : ¬(e.prefixed width).IsSlotCall := h
  exact operand_ofEncoding_of_not_isSlotCall hnew

end Insn

theorem Encoding.not_isSlotCall_of_full {e : Encoding} (h : e.HasFullImmediate) :
    ¬e.IsSlotCall := by
  rintro ⟨hcall, _⟩
  rcases h with ⟨b, hb, hop⟩ | ⟨hop, _⟩
  · have hff : 0xff = b := Opcode.ofByte_inj.1 (hcall.symm.trans hop)
    rw [← hff] at hb
    exact absurd hb (by decide)
  · exact absurd (Opcode.ofByte_inj.1 (hcall.symm.trans hop)) (by decide)

namespace Code

/-- What is decoded at the start of some code is an encoding with which the code begins. -/
theorem exists_valid_of_decode_base {c : Code} {i : Insn} (h : c.decode c.base = .ok i) :
    ∃ (e : Encoding) (shape : Shape) (rest : List UInt8),
      e.Valid shape ∧ c.bytes = e.toBytes ++ rest ∧ i = Insn.ofEncoding c.base e := by
  have hbytes := decodeBytes_of_decode h
  rw [Nat.sub_self, List.drop_zero] at hbytes
  rcases Insn.decodeBytes_eq_ok_iff.1 hbytes with ⟨e, shape, rest, hwf, hsplit, _, hi⟩
  exact ⟨e, shape, rest, Encoding.valid_iff_wellFormed.2 hwf, hsplit, hi⟩

/-- An instruction of at most 14 bytes with REX.W and without a prefix `66` is decoded with that
prefix too, and all fields in front of the operand stay. The operand stays as well, or lies as far
from the end as before if it is a slot, unless it is a constant of four bytes. Such a constant loses
two of them. -/
theorem decode_prefixed {c : Code} {i : Insn} (h : c.decode c.base = .ok i)
    (hwide : i.rexW = true) (hno : i.prefixes.operandSize = false) (hlen : i.length ≤ 14)
    {b : Address} (fits : b.toNat + (0x66 :: c.bytes).length < 1 <<< 64) :
    ∃ e rest j, c.bytes = e.toBytes ++ rest ∧ i.Records c.base e ∧
      decode ⟨b, 0x66 :: c.bytes, fits⟩ b = .ok j ∧
      (j.opcode = i.opcode ∧ j.modrm = i.modrm ∧ j.sib = i.sib ∧
        j.displacement = i.displacement) ∧
      (¬e.HasFullImmediate →
        j.length = i.length + 1 ∧ j.Records b (e.prefixed e.operand.length) ∧
          (¬e.IsSlotCall → j.operand = i.operand) ∧
          (e.IsSlotCall → Address.ofInt i.operand = i.stop.offset i.displacement ∧
            Address.ofInt j.operand = j.stop.offset i.displacement)) ∧
      (e.HasFullImmediate →
        j.length + 1 = i.length ∧ j.Records b (e.prefixed 2) ∧
          j.operand = Int.bmod i.operand (2 ^ 16)) := by
  rcases exists_valid_of_decode_base h with ⟨e, shape, rest, hvalid, hsplit, rfl⟩
  have hlength : (Insn.ofEncoding c.base e).length = e.toBytes.length := rfl
  have hmax : Insn.maxLength = 15 := rfl
  have hlegacy : 0x66 ∉ e.legacy := by
    intro hmem
    have hset := e.prefixes_collects.operandSize.2 hmem
    exact absurd (hset.symm.trans hno) (by decide)
  -- Both codes are decoded at their starts, and only the valid encoding has to be found.
  have hdecode (width : Nat) (hnew : (e.prefixed width).Valid shape)
      (hshort : (e.prefixed width).toBytes.length ≤ Insn.maxLength) :
      decode ⟨b, 0x66 :: c.bytes, fits⟩ b = .ok (Insn.ofEncoding b (e.prefixed width)) := by
    have hstart : decode ⟨b, 0x66 :: c.bytes, fits⟩ b = Insn.decodeBytes b (0x66 :: c.bytes) :=
      decode_base rfl
    rw [hstart, hsplit]
    exact Insn.decodeBytes_prefixed hnew hshort rest
  by_cases hfull : e.HasFullImmediate
  · -- Two of the four bytes are left over, and with the prefix that is one byte less.
    rcases hvalid.prefixed_of_full hlegacy hfull with ⟨hfour, hnew⟩
    have hshorter := e.length_toBytes_prefixed 2
    have hslot : ¬e.IsSlotCall := Encoding.not_isSlotCall_of_full hfull
    refine ⟨e, rest, Insn.ofEncoding b (e.prefixed 2), hsplit, Insn.records_ofEncoding hvalid,
      hdecode 2 hnew (by omega), ⟨rfl, rfl, rfl, rfl⟩, ?_, ?_⟩
    · intro hnot
      exact absurd hfull hnot
    · intro _
      refine ⟨?_, Insn.records_ofEncoding hnew, ?_⟩
      · show (e.prefixed 2).toBytes.length + 1 = e.toBytes.length
        omega
      · rw [Insn.operand_prefixed hslot, Insn.operand_ofEncoding_of_not_isSlotCall hslot]
        exact Bytes.signed_take (by omega)
  · -- All bytes are kept, so the prefix comes on top.
    have hnew := hvalid.prefixed_of_not_full hwide hfull
    have hlonger := e.length_toBytes_prefixed e.operand.length
    refine ⟨e, rest, Insn.ofEncoding b (e.prefixed e.operand.length), hsplit,
      Insn.records_ofEncoding hvalid, hdecode _ hnew (by omega), ⟨rfl, rfl, rfl, rfl⟩, ?_, ?_⟩
    · intro _
      refine ⟨?_, Insn.records_ofEncoding hnew, ?_, ?_⟩
      · show (e.prefixed e.operand.length).toBytes.length = e.toBytes.length + 1
        omega
      · intro hslot
        rw [Insn.operand_prefixed hslot, Insn.operand_ofEncoding_of_not_isSlotCall hslot,
          List.take_length]
      · intro hslot
        have hslot' : (e.prefixed e.operand.length).IsSlotCall := hslot
        exact ⟨Insn.ofInt_operand_of_slotCall hslot, Insn.ofInt_operand_of_slotCall hslot'⟩
    · intro hyes
      exact absurd hyes hfull

/-- A move of an eight-byte constant and an addition of a four-byte one, both with REX.W. -/
def wideMove : Code :=
  ⟨.ofNat 0x401000, [0x48, 0xb8, 1, 2, 3, 4, 5, 6, 7, 8], by decide⟩

def wideAdd : Code :=
  ⟨.ofNat 0x401000, [0x48, 0x81, 0xc0, 0x78, 0x56, 0x34, 0x12], by decide⟩

theorem decode_prefixed_wideMove :
    ∃ i j, wideMove.decode wideMove.base = .ok i ∧ i.rexW = true ∧
      i.prefixes.operandSize = false ∧ i.length ≤ 14 ∧
      decode ⟨wideMove.base, 0x66 :: wideMove.bytes, by decide⟩ wideMove.base = .ok j ∧
      j.length = i.length + 1 ∧ j.operand = i.operand := by
  have hmove : wideMove.decode wideMove.base = .ok (Insn.ofEncoding wideMove.base
      ⟨[], some 0x48, .ofByte 0xb8, none, none, [], [1, 2, 3, 4, 5, 6, 7, 8]⟩) := rfl
  rcases decode_prefixed hmove (by decide) (by decide) (by decide)
    (b := wideMove.base) (by decide) with
    ⟨e, rest, j, _, hrecords, hj, _, hkept, _⟩
  have hopcode : e.opcode = .ofByte 0xb8 := hrecords.opcode.symm
  have hfull : ¬e.HasFullImmediate := by
    simp [Encoding.HasFullImmediate, hopcode, Opcode.ofByte_inj, fullImmediateBytes]
  have hslot : ¬e.IsSlotCall := by
    simp [Encoding.IsSlotCall, hopcode, Opcode.ofByte_inj]
  rcases hkept hfull with ⟨hlength, _, hoperand, _⟩
  exact ⟨_, j, hmove, by decide, by decide, by decide, hj, hlength, hoperand hslot⟩

/-- The addition is two bytes shorter with the prefix than REX.W wants it, and adds
another number. -/
theorem decode_prefixed_wideAdd :
    ∃ i j, wideAdd.decode wideAdd.base = .ok i ∧ i.rexW = true ∧
      i.prefixes.operandSize = false ∧ i.length ≤ 14 ∧
      decode ⟨wideAdd.base, 0x66 :: wideAdd.bytes, by decide⟩ wideAdd.base = .ok j ∧
      j.length + 2 = i.length + 1 ∧ i.operand = 0x12345678 ∧ j.operand = 0x5678 :=
  ⟨_, _, rfl, by decide, by decide, by decide, rfl, by decide, by decide, by decide⟩

end Code

end CodeSurvey
