import CodeSurvey.Insn.Encoding

/-!
# Opcode bytes that can be told apart

The opcodes of an instruction are the one-byte opcodes and the escaped ones.  Reading from the left
needs no look-ahead because the first byte of an opcode that has a shape is never a legacy prefix,
never a REX byte and, for a one-byte opcode, never the escape:

* `Opcode.IsEncodable op` : `op` is the opcode of a byte, or of a byte behind the escape;
* `Opcode.bytes_ofByte`, `bytes_ofEscaped` : what the two look like in an instruction;
* `Opcode.ofByte_of_shape` : the separation fact for one-byte opcodes.
-/

namespace CodeSurvey

/-- A property of all bytes can be checked on the numbers below 256. -/
theorem forall_byte {P : UInt8 → Prop} (h : ∀ n < 256, P (UInt8.ofNat n)) (b : UInt8) : P b := by
  have hb : UInt8.ofNat b.toNat = b := UInt8.ofNat_toNat
  exact hb ▸ h b.toNat b.toNat_lt

theorem Prefix.isByte_escape : Prefix.isByte Opcode.escape = false := by
  decide

theorem isRexByte_escape : isRexByte Opcode.escape = false := by
  decide

namespace Opcode

/-- The opcode of one byte, or of a byte behind the escape. -/
def IsEncodable (op : Opcode) : Prop :=
  ∃ b, op = ofByte b ∨ op = ofEscaped b

/-! ## Bytes of an opcode -/

theorem bytes_ofByte (b : UInt8) : (ofByte b).bytes = [b] := by
  revert b
  apply forall_byte
  decide +kernel

theorem bytes_ofEscaped (b : UInt8) : (ofEscaped b).bytes = [escape, b] := by
  revert b
  apply forall_byte
  decide +kernel

theorem low_ofByte (b : UInt8) : (ofByte b).low = b := by
  revert b
  apply forall_byte
  decide +kernel

theorem low_ofEscaped (b : UInt8) : (ofEscaped b).low = b := by
  revert b
  apply forall_byte
  decide +kernel

theorem isEncodable_iff {op : Opcode} :
    op.IsEncodable ↔ op = ofByte op.low ∨ op = ofEscaped op.low := by
  constructor
  · rintro ⟨b, rfl | rfl⟩
    · exact Or.inl (by rw [low_ofByte])
    · exact Or.inr (by rw [low_ofEscaped])
  · intro h
    exact ⟨op.low, h⟩

theorem bytes_ne_nil (op : Opcode) : op.bytes ≠ [] := by
  unfold bytes
  split <;> simp

theorem length_bytes_pos (op : Opcode) : 0 < op.bytes.length :=
  List.length_pos_iff.2 op.bytes_ne_nil

/-! ## Opcodes with a shape -/

/-- No byte that begins a one-byte opcode with a shape can be taken for a prefix or the escape. -/
theorem ofByte_of_shape {b : UInt8} (h : (ofByte b).shape?.isSome = true) :
    Prefix.isByte b = false ∧ isRexByte b = false ∧ b ≠ escape := by
  revert b
  apply forall_byte
  decide +kernel

end Opcode

end CodeSurvey
