import CodeSurvey.Proofs.Encoding.Reading
import Mathlib.Algebra.Group.Int.Defs
import Mathlib.Algebra.Group.Nat.Defs

/-!
# The instruction format

The layout of one instruction, written out field by field as a relation between the bytes, without
the functions that the reader uses for its widths:

* `Bytes.IsTwosComplement bs v` : the bytes are the digits of `v`, least significant byte first;
* `PrefixSet.Collects s legacy rex` : the flags of `s` are those of the bytes;
* `DisplacementWidth`, `OperandWidth` : the widths of the last two fields, one constructor per rule;
* `Encoding.Valid e shape` : `e` follows the format.

The main statement is `Encoding.valid_iff_wellFormed`: the format is what the reader checks.
-/

namespace CodeSurvey

/-! ## Signed numbers -/

/-- Byte `k` is digit `k` of the value to the base 256, and the value lies in the signed range of
that many bytes; no bytes stand for zero. -/
def Bytes.IsTwosComplement (bs : List UInt8) (v : Int) : Prop :=
  (∀ (k : Nat) (hk : k < bs.length), (bs[k].toNat : Int) = v / 256 ^ k % 256) ∧
    -(256 ^ bs.length) ≤ 2 * v ∧ 2 * v < 256 ^ bs.length

namespace Bytes

theorem little_lt (bs : List UInt8) : little bs < 256 ^ bs.length := by
  induction bs with
  | nil => simp [little]
  | cons b bs ih =>
    have hb := b.toNat_lt
    simp only [little, List.length_cons, Nat.pow_succ]
    omega

theorem signed_eq_bmod (bs : List UInt8) : signed bs = Int.bmod (little bs) (256 ^ bs.length) := by
  have hwidth : 1 <<< (8 * bs.length) = 256 ^ bs.length := by
    rw [Nat.shiftLeft_eq, Nat.one_mul, Nat.pow_mul]
  rw [signed, hwidth]

/-- The lowest digit and the others. -/
theorem emod_pow_succ (v : Int) (n : Nat) :
    v % 256 ^ (n + 1) = v % 256 + 256 * (v / 256 % 256 ^ n) := by
  have hdiv : v / 256 / 256 ^ n = v / (256 ^ (n + 1)) := by
    rw [Int.ediv_ediv_of_nonneg (by decide), Int.pow_succ, Int.mul_comm]
  have hmul : (256 : Int) ^ (n + 1) = 256 * 256 ^ n := by rw [Int.pow_succ, Int.mul_comm]
  calc
    v % 256 ^ (n + 1) = v - 256 ^ (n + 1) * (v / 256 ^ (n + 1)) := Int.emod_def _ _
    _ = (v - 256 * (v / 256)) + 256 * (v / 256 - 256 ^ n * (v / 256 / 256 ^ n)) := by
      rw [hdiv, hmul, Int.mul_sub, Int.mul_assoc]
      omega
    _ = v % 256 + 256 * (v / 256 % 256 ^ n) := by rw [Int.emod_def v, Int.emod_def (v / 256)]

theorem emod_eq_little_iff {bs : List UInt8} {v : Int} :
    v % 256 ^ bs.length = little bs ↔
      ∀ (k : Nat) (hk : k < bs.length), (bs[k].toNat : Int) = v / 256 ^ k % 256 := by
  induction bs generalizing v with
  | nil => simp [little]
  | cons b bs ih =>
    have hb := b.toNat_lt
    have hlow : v % 256 ^ (bs.length + 1) = little (b :: bs) ↔
        (b.toNat : Int) = v % 256 ∧ v / 256 % 256 ^ bs.length = little bs := by
      rw [emod_pow_succ, little]
      generalize v / 256 % 256 ^ bs.length = high
      omega
    refine hlow.trans ?_
    rw [ih]
    -- Digit `k + 1` of a value is digit `k` of what is left without the lowest digit.
    have hshift (k : Nat) : v / 256 / 256 ^ k = v / 256 ^ (k + 1) := by
      rw [Int.ediv_ediv_of_nonneg (by decide), Int.pow_succ, Int.mul_comm]
    constructor
    · rintro ⟨hzero, hsucc⟩ k hk
      cases k with
      | zero => simpa using hzero
      | succ k => simpa [hshift] using hsucc k (Nat.lt_of_succ_lt_succ hk)
    · intro hall
      refine ⟨by simpa using hall 0 (Nat.zero_lt_succ _), ?_⟩
      intro k hk
      simpa [hshift] using hall (k + 1) (Nat.succ_lt_succ hk)

theorem isTwosComplement_iff {bs : List UInt8} {v : Int} :
    IsTwosComplement bs v ↔ signed bs = v := by
  have hpos : 0 < 256 ^ bs.length := Nat.pow_pos (by decide)
  have hcast : ((256 ^ bs.length : Nat) : Int) = 256 ^ bs.length := Int.natCast_pow 256 bs.length
  have hlt : (little bs : Int) < 256 ^ bs.length := hcast ▸ Int.ofNat_lt.2 (little_lt bs)
  have hmod : (little bs : Int) % 256 ^ bs.length = little bs :=
    Int.emod_eq_of_lt (Int.natCast_nonneg _) hlt
  have hdigits : v % 256 ^ bs.length = little bs ↔ (256 ^ bs.length : Int) ∣ v - little bs := by
    rw [Int.dvd_iff_emod_eq_zero, ← Int.emod_eq_emod_iff_emod_sub_eq_zero, hmod]
  have hbmod := Int.bmod_eq_iff (a := little bs) (c := v) hpos
  rw [hcast] at hbmod
  rw [IsTwosComplement, signed_eq_bmod, ← emod_eq_little_iff, hdigits, hbmod]
  constructor
  · rintro ⟨hdvd, hlow, hhigh⟩
    exact ⟨by omega, by omega, hdvd⟩
  · rintro ⟨hlow, hhigh, hdvd⟩
    exact ⟨hdvd, by omega, by omega⟩

theorem isTwosComplement_signed (bs : List UInt8) : IsTwosComplement bs (signed bs) :=
  isTwosComplement_iff.2 rfl

end Bytes

/-! ## Prefixes -/

/-- The bytes that are legacy prefixes. -/
def legacyPrefixBytes : List UInt8 :=
  [0xf0, 0x26, 0x2e, 0x36, 0x3e, 0x64, 0x65, 0x66, 0x67, 0xf3, 0xf2]

def segmentPrefixBytes : List UInt8 :=
  [0x26, 0x2e, 0x36, 0x3e, 0x64, 0x65]

/-- A set has the flag of each prefix byte that occurs, the flag of REX if there is a REX byte, and
no other flags. -/
structure PrefixSet.Collects (s : PrefixSet) (legacy : List UInt8) (rex : Option UInt8) : Prop where
  lock : s.lock = true ↔ 0xf0 ∈ legacy
  segment : s.segment = true ↔ ∃ b ∈ legacy, b ∈ segmentPrefixBytes
  operandSize : s.operandSize = true ↔ 0x66 ∈ legacy
  addressSize : s.addressSize = true ↔ 0x67 ∈ legacy
  rep : s.rep = true ↔ 0xf3 ∈ legacy
  repne : s.repne = true ↔ 0xf2 ∈ legacy
  rex : s.rex = true ↔ rex.isSome = true

theorem Prefix.isByte_iff {b : UInt8} : Prefix.isByte b = true ↔ b ∈ legacyPrefixBytes := by
  revert b
  apply forall_byte
  decide +kernel

theorem isRexByte_iff {b : UInt8} :
    isRexByte b = true ↔ 0x40 ≤ b.toNat ∧ b.toNat ≤ 0x4f := by
  simp only [isRexByte, beq_iff_eq]
  omega

namespace PrefixSet

/-- The flag of one legacy prefix. -/
def has (s : PrefixSet) : Prefix → Bool
  | .lock => s.lock
  | .segment => s.segment
  | .operandSize => s.operandSize
  | .addressSize => s.addressSize
  | .rep => s.rep
  | .repne => s.repne

theorem has_insert (s : PrefixSet) (p q : Prefix) :
    (s.insert p).has q = true ↔ s.has q = true ∨ q = p := by
  cases p <;> cases q <;> simp [insert, has]

theorem has_foldl_insert (ps : List Prefix) (s : PrefixSet) (q : Prefix) :
    (ps.foldl insert s).has q = true ↔ s.has q = true ∨ q ∈ ps := by
  induction ps generalizing s with
  | nil => simp
  | cons p ps ih =>
    rw [List.foldl_cons, ih, has_insert, List.mem_cons, or_assoc]

theorem has_ofBytes (bs : List UInt8) (q : Prefix) :
    (ofBytes bs).has q = true ↔ ∃ b ∈ bs, Prefix.ofByte? b = some q := by
  have hempty : (({} : PrefixSet).has q = true) ↔ False := by
    cases q <;> simp [has]
  rw [ofBytes, has_foldl_insert, hempty, false_or, List.mem_filterMap]

end PrefixSet

theorem Prefix.ofByte?_eq_some_iff {b : UInt8} {p : Prefix} :
    Prefix.ofByte? b = some p ↔
      match p with
      | .lock => b = 0xf0
      | .segment => b ∈ segmentPrefixBytes
      | .operandSize => b = 0x66
      | .addressSize => b = 0x67
      | .rep => b = 0xf3
      | .repne => b = 0xf2 := by
  revert b
  apply forall_byte
  cases p <;> decide +kernel

theorem Encoding.prefixes_collects (e : Encoding) : e.prefixes.Collects e.legacy e.rex := by
  have hlegacy (q : Prefix) : e.prefixes.has q = (PrefixSet.ofBytes e.legacy).has q := by
    cases q <;> rfl
  have hhas (q : Prefix) := (hlegacy q).symm ▸ PrefixSet.has_ofBytes e.legacy q
  simp only [Prefix.ofByte?_eq_some_iff] at hhas
  refine ⟨?_, hhas .segment, ?_, ?_, ?_, ?_, Iff.rfl⟩
  · simpa [PrefixSet.has] using hhas .lock
  · simpa [PrefixSet.has] using hhas .operandSize
  · simpa [PrefixSet.has] using hhas .addressSize
  · simpa [PrefixSet.has] using hhas .rep
  · simpa [PrefixSet.has] using hhas .repne

/-! ## Widths -/

/-- The number of displacement bytes behind a ModRM byte and a SIB byte. -/
inductive DisplacementWidth : Option ModRM → Option UInt8 → Nat → Prop where
  | noModRM (sib : Option UInt8) : DisplacementWidth none sib 0
  | register {m : ModRM} (sib : Option UInt8) (mode : m.mode = .register) :
      DisplacementWidth (some m) sib 0
  | byte {m : ModRM} (sib : Option UInt8) (mode : m.mode = .indirectDisp8) :
      DisplacementWidth (some m) sib 1
  | long {m : ModRM} (sib : Option UInt8) (mode : m.mode = .indirectDisp32) :
      DisplacementWidth (some m) sib 4
  | ripRelative {m : ModRM} (sib : Option UInt8) (mode : m.mode = .indirect) (rm : m.rm = 5) :
      DisplacementWidth (some m) sib 4
  | noBase {m : ModRM} {s : UInt8} (mode : m.mode = .indirect) (rm : m.rm = 4)
      (base : s.toNat % 8 = 5) : DisplacementWidth (some m) (some s) 4
  | sibBase {m : ModRM} {s : UInt8} (mode : m.mode = .indirect) (rm : m.rm = 4)
      (base : s.toNat % 8 ≠ 5) : DisplacementWidth (some m) (some s) 0
  | base {m : ModRM} (sib : Option UInt8) (mode : m.mode = .indirect) (rm₄ : m.rm ≠ 4)
      (rm₅ : m.rm ≠ 5) : DisplacementWidth (some m) sib 0

/-- The number of operand bytes of a kind of operand, under an operand-size prefix (`short`), under
REX.W (`wide`) and with a ModRM field `reg`. -/
inductive OperandWidth (short wide : Prop) (reg : Nat) : OperandKind → Nat → Prop where
  | empty : OperandWidth short wide reg .empty 0
  | imm8 : OperandWidth short wide reg .imm8 1
  | rel8 : OperandWidth short wide reg .rel8 1
  | imm16 : OperandWidth short wide reg .imm16 2
  | rel32 : OperandWidth short wide reg .rel32 4
  | immZ_short (hs : short) : OperandWidth short wide reg .immZ 2
  | immZ (hs : ¬short) : OperandWidth short wide reg .immZ 4
  | immV_wide (hw : wide) : OperandWidth short wide reg .immV 8
  | immV_short (hw : ¬wide) (hs : short) : OperandWidth short wide reg .immV 2
  | immV (hw : ¬wide) (hs : ¬short) : OperandWidth short wide reg .immV 4
  | noTest (wideTest : Bool) (hr : 2 ≤ reg) : OperandWidth short wide reg (.testGroup wideTest) 0
  | testByte (hr : reg ≤ 1) : OperandWidth short wide reg (.testGroup false) 1
  | test_short (hr : reg ≤ 1) (hs : short) : OperandWidth short wide reg (.testGroup true) 2
  | test (hr : reg ≤ 1) (hs : ¬short) : OperandWidth short wide reg (.testGroup true) 4

theorem ModRM.needsSib_iff {m : ModRM} : m.needsSib = true ↔ m.mode ≠ .register ∧ m.rm = 4 := by
  simp [ModRM.needsSib]

theorem displacementWidth_iff {modrm : Option ModRM} {sib : Option UInt8} {n : Nat}
    (hsib : sib.isSome = modrm.any ModRM.needsSib) :
    DisplacementWidth modrm sib n ↔ n = Encoding.displacementWidth modrm sib := by
  cases modrm with
  | none =>
    constructor
    · rintro ⟨⟩
      rfl
    · rintro rfl
      exact .noModRM sib
  | some m =>
    have hwidth : Encoding.displacementWidth (some m) sib = m.displacementWidth sib := rfl
    rw [hwidth]
    constructor
    · intro h
      cases h with
      | register _ mode => simp [ModRM.displacementWidth, mode]
      | byte _ mode => simp [ModRM.displacementWidth, mode]
      | long _ mode => simp [ModRM.displacementWidth, mode]
      | ripRelative _ mode rm => simp [ModRM.displacementWidth, ModRM.isRipRelative, mode, rm]
      | noBase mode rm base => simp [ModRM.displacementWidth, mode, base]
      | sibBase mode rm base =>
        simp [ModRM.displacementWidth, ModRM.isRipRelative, mode, rm, base]
      | base _ mode rm₄ rm₅ =>
        -- Without the SIB escape there is no SIB byte that could leave the base out.
        have hno : m.needsSib = false := by simp [ModRM.needsSib, rm₄]
        have hnone : sib = none := by simpa [hno] using hsib
        simp [ModRM.displacementWidth, ModRM.isRipRelative, mode, rm₅, hnone]
    · rintro rfl
      cases mode : m.mode with
      | register => simpa [ModRM.displacementWidth, mode] using .register sib mode
      | indirectDisp8 => simpa [ModRM.displacementWidth, mode] using .byte sib mode
      | indirectDisp32 => simpa [ModRM.displacementWidth, mode] using .long sib mode
      | indirect =>
        by_cases rm₅ : m.rm = 5
        · simpa [ModRM.displacementWidth, ModRM.isRipRelative, mode, rm₅] using
            DisplacementWidth.ripRelative sib mode rm₅
        · by_cases rm₄ : m.rm = 4
          · cases sib with
            | none => simp [ModRM.needsSib, mode, rm₄] at hsib
            | some s =>
              by_cases base : s.toNat % 8 = 5
              · simpa [ModRM.displacementWidth, mode, base] using
                  DisplacementWidth.noBase mode rm₄ base
              · simpa [ModRM.displacementWidth, ModRM.isRipRelative, mode, rm₅, base] using
                  DisplacementWidth.sibBase mode rm₄ base
          · have hno : m.needsSib = false := by simp [ModRM.needsSib, rm₄]
            have hnone : sib = none := by simpa [hno] using hsib
            simpa [ModRM.displacementWidth, ModRM.isRipRelative, mode, rm₅, hnone] using
              DisplacementWidth.base sib mode rm₄ rm₅

theorem operandWidth_iff {short wide : Prop} [Decidable short] [Decidable wide] {reg n : Nat}
    {kind : OperandKind} :
    OperandWidth short wide reg kind n ↔ n = kind.width (decide short) (decide wide) reg := by
  constructor
  · intro h
    cases h with
    | empty => rfl
    | imm8 => rfl
    | rel8 => rfl
    | imm16 => rfl
    | rel32 => rfl
    | immZ_short hs => simp [OperandKind.width, hs]
    | immZ hs => simp [OperandKind.width, hs]
    | immV_wide hw => simp [OperandKind.width, hw]
    | immV_short hw hs => simp [OperandKind.width, hw, hs]
    | immV hw hs => simp [OperandKind.width, hw, hs]
    | noTest _ hr => simp [OperandKind.width, show 1 < reg from hr]
    | testByte hr => simp [OperandKind.width, show ¬1 < reg by omega]
    | test_short hr hs => simp [OperandKind.width, show ¬1 < reg by omega, hs]
    | test hr hs => simp [OperandKind.width, show ¬1 < reg by omega, hs]
  · rintro rfl
    cases kind with
    | empty => exact .empty
    | imm8 => exact .imm8
    | imm16 => exact .imm16
    | rel8 => exact .rel8
    | rel32 => exact .rel32
    | immZ =>
      by_cases hs : short
      · simpa [OperandKind.width, hs] using OperandWidth.immZ_short hs
      · simpa [OperandKind.width, hs] using OperandWidth.immZ hs
    | immV =>
      by_cases hw : wide
      · simpa [OperandKind.width, hw] using OperandWidth.immV_wide hw
      · by_cases hs : short
        · simpa [OperandKind.width, hw, hs] using OperandWidth.immV_short hw hs
        · simpa [OperandKind.width, hw, hs] using OperandWidth.immV hw hs
    | testGroup wideTest =>
      by_cases hr : 1 < reg
      · simpa [OperandKind.width, hr] using OperandWidth.noTest wideTest hr
      · have hle : reg ≤ 1 := by omega
        cases wideTest with
        | false => simpa [OperandKind.width, hr] using OperandWidth.testByte hle
        | true =>
          by_cases hs : short
          · simpa [OperandKind.width, hr, hs] using OperandWidth.test_short hle hs
          · simpa [OperandKind.width, hr, hs] using OperandWidth.test hle hs

/-! ## The format -/

/-- The fields follow the format: prefixes and REX are the bytes they can be, the opcode is known,
and every other field is there, and as wide, as the fields in front of it prescribe. -/
structure Encoding.Valid (e : Encoding) (shape : Shape) : Prop where
  legacy : ∀ b ∈ e.legacy, b ∈ legacyPrefixBytes
  rex : ∀ b ∈ e.rex, 0x40 ≤ b.toNat ∧ b.toNat ≤ 0x4f
  opcode : e.opcode.IsEncodable
  shape_eq : e.opcode.shape? = some shape
  modrm : e.modrm.isSome = true ↔ shape.hasModRM = true
  sib : e.sib.isSome = true ↔ ∃ m ∈ e.modrm, m.mode ≠ .register ∧ m.rm = 4
  displacement : DisplacementWidth e.modrm e.sib e.displacement.length
  operand : OperandWidth (0x66 ∈ e.legacy) (Encoding.rexW e.rex = true) (Encoding.regField e.modrm)
    shape.operand e.operand.length

theorem Encoding.operandWidth_eq (e : Encoding) (shape : Shape) :
    Encoding.operandWidth e.legacy e.rex e.modrm shape =
      shape.operand.width (decide (0x66 ∈ e.legacy)) (decide (Encoding.rexW e.rex = true))
        (Encoding.regField e.modrm) := by
  have hshort : (PrefixSet.ofBytes e.legacy).operandSize = decide (0x66 ∈ e.legacy) := by
    have h : (PrefixSet.ofBytes e.legacy).operandSize = true ↔ 0x66 ∈ e.legacy :=
      e.prefixes_collects.operandSize
    by_cases hmem : 0x66 ∈ e.legacy
    · simpa [hmem] using h
    · simpa [hmem] using h
  rw [Encoding.operandWidth, hshort, Bool.decide_eq_true]

theorem sib_iff (modrm : Option ModRM) (sib : Option UInt8) :
    (sib.isSome = true ↔ ∃ m ∈ modrm, m.mode ≠ .register ∧ m.rm = 4) ↔
      sib.isSome = modrm.any ModRM.needsSib := by
  have hany : (∃ m ∈ modrm, m.mode ≠ .register ∧ m.rm = 4) ↔ modrm.any ModRM.needsSib = true := by
    cases modrm with
    | none => simp
    | some m => simp [ModRM.needsSib_iff]
  rw [hany]
  exact Bool.eq_iff_iff.symm

/-- The format is what the reader checks. -/
theorem Encoding.valid_iff_wellFormed {e : Encoding} {shape : Shape} :
    e.Valid shape ↔ e.WellFormed shape := by
  constructor
  · intro h
    have hsib := (sib_iff e.modrm e.sib).1 h.sib
    refine ⟨fun b hb => Prefix.isByte_iff.2 (h.legacy b hb),
      fun b hb => isRexByte_iff.2 (h.rex b hb), Opcode.isEncodable_iff.1 h.opcode, h.shape_eq,
      Bool.eq_iff_iff.2 h.modrm, hsib, (displacementWidth_iff hsib).1 h.displacement, ?_⟩
    rw [Encoding.operandWidth_eq]
    exact operandWidth_iff.1 h.operand
  · intro h
    refine ⟨fun b hb => Prefix.isByte_iff.1 (h.legacy_isByte b hb),
      fun b hb => isRexByte_iff.1 (h.rex_isRexByte b hb), Opcode.isEncodable_iff.2 h.opcode_isByte,
      h.shape_eq, Bool.eq_iff_iff.1 h.modrm_isSome, (sib_iff e.modrm e.sib).2 h.sib_isSome,
      (displacementWidth_iff h.sib_isSome).2 h.displacement_length, ?_⟩
    rw [operandWidth_iff, ← Encoding.operandWidth_eq]
    exact h.operand_length

/-- The opcode alone says which shape it is. -/
theorem Encoding.Valid.length_operand {e : Encoding} {shape shape' : Shape} (h : e.Valid shape)
    (hshape : e.opcode.shape? = some shape') :
    e.operand.length = Encoding.operandWidth e.legacy e.rex e.modrm shape' := by
  cases Option.some.inj (h.shape_eq.symm.trans hshape)
  exact (Encoding.valid_iff_wellFormed.1 h).operand_length

end CodeSurvey
