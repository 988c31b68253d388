import CodeSurvey.Proofs.Address
import CodeSurvey.Proofs.Decode.Placement
import CodeSurvey.Sweep.Search

/-!
# Relocated instructions

The same bytes at another address give the same instruction there. Only a call through a slot at a
known address has more to it than its start: its operand is that address, and moves along.

* `Insn.moved d i` : the instruction `d` places farther up;
* `Insn.decodeBytes_offset` : decoding so much farther up gives it, or the same error there;
* `Insn.callTarget?_moved` : destinations of calls move along, around the address space if need be;
* `Insn.isCallTo_moved`, `isLeaWith_moved` : what was searched for is found again.
-/

namespace CodeSurvey

/-- The same error at an address `d` places farther up. -/
def DecodeError.moved (d : Int) : DecodeError → DecodeError
  | .empty a => .empty (a.offset d)
  | .outOfBounds a => .outOfBounds (a.offset d)
  | .truncated a consumed => .truncated (a.offset d) consumed
  | .unsupportedOpcode a opcode => .unsupportedOpcode (a.offset d) opcode
  | .tooLong a => .tooLong (a.offset d)

namespace Insn

/-- The instruction `d` places farther up. The slot of a call through one moves along. -/
def moved (d : Int) (i : Insn) : Insn :=
  { i with
    start := i.start.offset d
    operand :=
      if isSlotCall i.opcode i.modrm then Int.bmod (i.operand + d) (1 <<< 64) else i.operand }

@[simp] theorem start_moved (d : Int) (i : Insn) : (i.moved d).start = i.start.offset d := rfl

@[simp] theorem length_moved (d : Int) (i : Insn) : (i.moved d).length = i.length := rfl

@[simp] theorem modrm_moved (d : Int) (i : Insn) : (i.moved d).modrm = i.modrm := rfl

/-- Neither the place nor the operand has a say in what kind of instruction it is. -/
@[simp] theorem kind_moved (d : Int) (i : Insn) : (i.moved d).kind = i.kind := rfl

theorem stop_moved (d : Int) (i : Insn) : (i.moved d).stop = i.stop.offset d :=
  Address.offset_add i.start d i.length

/-! ## Decoding -/

/-- The signed number of an address moves with it. -/
theorem bmod_toNat_offset (a : Address) (d : Int) :
    Int.bmod (a.offset d).toNat (1 <<< 64) =
      Int.bmod (Int.bmod a.toNat (1 <<< 64) + d) (1 <<< 64) := by
  calc
    Int.bmod (a.offset d).toNat (1 <<< 64) =
        Int.bmod ((a.toNat + d) % ((1 <<< 64 : Nat) : Int)) (1 <<< 64) := by
      rw [Address.toNat_offset]
      rfl
    _ = Int.bmod (a.toNat + d) (1 <<< 64) := Int.emod_bmod _ _
    _ = Int.bmod (Int.bmod a.toNat (1 <<< 64) + d) (1 <<< 64) := Int.bmod_add_bmod.symm

theorem operand_moved_of_slotCall {i : Insn} (h : isSlotCall i.opcode i.modrm = true) (d : Int) :
    (i.moved d).operand = Int.bmod (i.operand + d) (1 <<< 64) :=
  if_pos h

theorem operand_moved_of_not_slotCall {i : Insn} (h : ¬isSlotCall i.opcode i.modrm = true)
    (d : Int) : (i.moved d).operand = i.operand :=
  if_neg h

theorem operand_ofEncoding_offset (a : Address) (d : Int) (e : Encoding) :
    (ofEncoding (a.offset d) e).operand = ((ofEncoding a e).moved d).operand := by
  by_cases hcall : isSlotCall e.opcode e.modrm = true
  · -- The slot lies as far from the end of the instruction as before.
    have hslot : (a.offset d + e.toBytes.length).offset (Bytes.signed e.displacement) =
        ((a + e.toBytes.length).offset (Bytes.signed e.displacement)).offset d := by
      rw [Address.offset_add, Address.offset_comm]
    rw [operand_moved_of_slotCall (i := ofEncoding a e) hcall,
      operand_ofEncoding_of_slotCall hcall, operand_ofEncoding_of_slotCall hcall, hslot,
      bmod_toNat_offset]
  · rw [operand_moved_of_not_slotCall (i := ofEncoding a e) hcall,
      operand_ofEncoding_of_not_slotCall hcall, operand_ofEncoding_of_not_slotCall hcall]

theorem ofEncoding_offset (a : Address) (d : Int) (e : Encoding) :
    ofEncoding (a.offset d) e = (ofEncoding a e).moved d := by
  calc
    ofEncoding (a.offset d) e =
        { ofEncoding a e with
          start := a.offset d
          operand := (ofEncoding (a.offset d) e).operand } := rfl
    _ = (ofEncoding a e).moved d := by
      rw [operand_ofEncoding_offset]
      rfl

theorem decodeBytes_offset (a : Address) (d : Int) (bs : List UInt8) :
    decodeBytes (a.offset d) bs =
      ((decodeBytes a bs).map (moved d)).mapError (DecodeError.moved d) := by
  cases hread : Encoding.read (bs.take maxLength) with
  | ok r =>
    simp only [decodeBytes, hread, ofEncoding_offset]
    rfl
  | error f =>
    cases f with
    | unsupported op =>
      simp only [decodeBytes, hread]
      rfl
    | ranOut =>
      simp only [decodeBytes, hread]
      split
      · rfl
      · rfl

theorem decodeBytes_offset_of_ok {a : Address} {bs : List UInt8} {i : Insn}
    (h : decodeBytes a bs = .ok i) (d : Int) :
    decodeBytes (a.offset d) bs = .ok (i.moved d) := by
  rw [decodeBytes_offset, h]
  rfl

theorem decodeBytes_offset_of_error {a : Address} {bs : List UInt8} {e : DecodeError}
    (h : decodeBytes a bs = .error e) (d : Int) :
    decodeBytes (a.offset d) bs = .error (e.moved d) := by
  rw [decodeBytes_offset, h]
  rfl

/-! ## Destinations -/

theorem opcode_of_nearCall {i : Insn} (h : i.kind = .nearCall) : i.opcode = .callRel32 := by
  grind [kind, hintKind, group5Kind]

theorem opcode_of_indirectCall {i : Insn} (h : i.kind = .indirectCall) : i.opcode = .group5 := by
  grind [kind, hintKind]

theorem kind_of_group5 {i : Insn} (h : i.opcode = .group5) : i.kind = i.group5Kind := by
  have hjump : Opcode.group5.isConditionalJump = false := by decide
  simp only [kind, h, hjump]
  rfl

theorem group5Kind_eq_indirectCall_iff {i : Insn} :
    i.group5Kind = .indirectCall ↔ i.reg? = some 2 ∨ i.reg? = some 3 := by
  unfold group5Kind
  split <;> simp_all

/-- The operand is a slot exactly for the indirect calls that have a destination. -/
theorem isSlotCall_of_indirectCall {i : Insn} (hkind : i.kind = .indirectCall)
    (hrip : i.modrm.any ModRM.isRipRelative = true) : isSlotCall i.opcode i.modrm = true := by
  have hop := opcode_of_indirectCall hkind
  rw [kind_of_group5 hop, group5Kind_eq_indirectCall_iff] at hkind
  cases hmodrm : i.modrm with
  | none => simp [hmodrm] at hrip
  | some m =>
    have hm : m.isRipRelative = true := by simpa [hmodrm] using hrip
    have hreg : m.reg = 2 ∨ m.reg = 3 := by simpa [reg?, hmodrm] using hkind
    simp [isSlotCall, hop, hreg, hm]

theorem callTarget?_moved (d : Int) (i : Insn) :
    (i.moved d).callTarget? = i.callTarget?.map fun t => t.offset d := by
  cases hkind : i.kind with
  | nearCall =>
    have hslot : ¬isSlotCall i.opcode i.modrm = true := by
      simp [isSlotCall, opcode_of_nearCall hkind, Opcode.callRel32, Opcode.group5]
    have htarget : (i.moved d).relativeTarget = i.relativeTarget.offset d := by
      rw [relativeTarget, relativeTarget, stop_moved, operand_moved_of_not_slotCall hslot,
        Address.offset_comm]
    simp only [callTarget?, kind_moved, hkind, htarget, Option.map_some]
  | indirectCall =>
    cases hrip : i.modrm.any ModRM.isRipRelative with
    | false => simp [callTarget?, hkind, hrip]
    | true =>
      have hslot := isSlotCall_of_indirectCall hkind hrip
      have htarget : Address.ofInt (i.moved d).operand = (Address.ofInt i.operand).offset d := by
        rw [operand_moved_of_slotCall hslot, Address.ofInt_bmod, Address.offset_ofInt]
      simp only [callTarget?, kind_moved, modrm_moved, hkind, hrip, htarget, if_true,
        Option.map_some]
  | _ => simp [callTarget?, hkind]

/-! ## What is searched for -/

theorem isCallTo_moved (d : Int) (target : Option Address) (i : Insn) :
    isCallTo (target.map fun t => t.offset d) (i.moved d) = isCallTo target i := by
  cases target with
  | none => rfl
  | some t =>
    have hsame : ((i.moved d).callTarget? == some (t.offset d)) = (i.callTarget? == some t) := by
      rw [callTarget?_moved]
      cases i.callTarget? with
      | none => rfl
      | some u => simp [Bool.beq_eq_decide_eq, Address.offset_inj]
    simp [isCallTo, hsame]

theorem isLeaWith_moved (d displacement : Int) (i : Insn) :
    isLeaWith displacement (i.moved d) = isLeaWith displacement i := rfl

end Insn

end CodeSurvey
