import CodeSurvey.Insn.Decode
import CodeSurvey.Proofs.Encoding.Reading

/-!
# Decoding placed bytes

What decoding at an address depends on, and where the instruction that it gives lies.

* `Insn.decodeBytes_eq_ok_iff` : decoding succeeds exactly on the encodings of at most
  `Insn.maxLength` bytes;
* `Insn.decodeBytes_eq_tooLong` : longer encodings are refused, wherever the limit cuts them;
* `Insn.operand_ofEncoding_of_slotCall` : the one operand that depends on the address;
* `Code.Holds c a bs` : the bytes `bs` lie at `a`;
* `Code.stop_of_decode` : a decoded instruction ends inside the code, so addresses do not wrap.
-/

namespace CodeSurvey

theorem Encoding.length_toBytes_pos (e : Encoding) : 0 < e.toBytes.length := by
  have hop := e.opcode.length_bytes_pos
  simp only [Encoding.toBytes, List.length_append]
  omega

namespace Insn

/-! ## From bytes -/

theorem decodeBytes_eq_ok_iff {a : Address} {bs : List UInt8} {i : Insn} :
    decodeBytes a bs = .ok i ↔
      ∃ (e : Encoding) (shape : Shape) (rest : List UInt8),
        e.WellFormed shape ∧ bs = e.toBytes ++ rest ∧ e.toBytes.length ≤ maxLength ∧
          i = ofEncoding a e := by
  constructor
  · intro h
    cases hread : Encoding.read (bs.take maxLength) with
    | error f =>
      cases f with
      | unsupported op => simp [decodeBytes, hread] at h
      | ranOut =>
        simp only [decodeBytes, hread] at h
        split at h <;> cases h
    | ok r =>
      rcases r with ⟨e, r⟩
      have hi : ofEncoding a e = i := by simpa [decodeBytes, hread] using h
      rcases Encoding.read_eq_ok_iff.1 hread with ⟨⟨shape, hwf⟩, hfront⟩
      -- What the reader left over and what it was not shown both lie behind the encoding.
      refine ⟨e, shape, r ++ bs.drop maxLength, hwf, ?_, ?_, hi.symm⟩
      · rw [← List.append_assoc, ← hfront, List.take_append_drop]
      · have hlen := congrArg List.length hfront
        rw [List.length_append, List.length_take] at hlen
        omega
  · rintro ⟨e, shape, rest, hwf, rfl, hlen, rfl⟩
    -- The limit cuts behind the encoding, so the reader is shown all of it.
    have hfront : (e.toBytes ++ rest).take maxLength =
        e.toBytes ++ rest.take (maxLength - e.toBytes.length) := by
      rw [List.take_append, List.take_of_length_le hlen]
    have hread : Encoding.read ((e.toBytes ++ rest).take maxLength) =
        .ok (e, rest.take (maxLength - e.toBytes.length)) :=
      Encoding.read_eq_ok_iff.2 ⟨⟨shape, hwf⟩, hfront⟩
    simp [decodeBytes, hread]

/-- The limit is to blame however far beyond it the encoding goes. -/
theorem decodeBytes_eq_tooLong {a : Address} {bs : List UInt8} {e : Encoding} {shape : Shape}
    (hwf : e.WellFormed shape) (hlong : maxLength < e.toBytes.length)
    (hfront : bs.take maxLength = e.toBytes.take maxLength) :
    decodeBytes a bs = .error (.tooLong a) := by
  have hread : Encoding.read (bs.take maxLength) = .error .ranOut :=
    hfront ▸ Encoding.read_of_cut hwf hlong
  have hlen : (bs.take maxLength).length = maxLength := by
    rw [hfront, List.length_take_of_le (Nat.le_of_lt hlong)]
  simp [decodeBytes, hread, hlen]

theorem start_of_decodeBytes {a : Address} {bs : List UInt8} {i : Insn}
    (h : decodeBytes a bs = .ok i) : i.start = a := by
  rcases decodeBytes_eq_ok_iff.1 h with ⟨e, shape, rest, _, _, _, rfl⟩
  rfl

theorem length_of_decodeBytes {a : Address} {bs : List UInt8} {i : Insn}
    (h : decodeBytes a bs = .ok i) :
    0 < i.length ∧ i.length ≤ maxLength ∧ i.length ≤ bs.length := by
  rcases decodeBytes_eq_ok_iff.1 h with ⟨e, shape, rest, _, rfl, hlen, rfl⟩
  have hlength : (ofEncoding a e).length = e.toBytes.length := rfl
  rw [hlength, List.length_append]
  exact ⟨e.length_toBytes_pos, hlen, Nat.le_add_right _ _⟩

/-! ## Operands -/

theorem operand_ofEncoding_of_slotCall {e : Encoding} (h : isSlotCall e.opcode e.modrm = true)
    (a : Address) :
    (ofEncoding a e).operand =
      Int.bmod ((a + e.toBytes.length).offset (Bytes.signed e.displacement)).toNat (1 <<< 64) :=
  if_pos h

theorem operand_ofEncoding_of_not_slotCall {e : Encoding}
    (h : ¬isSlotCall e.opcode e.modrm = true) (a : Address) :
    (ofEncoding a e).operand = Bytes.signed e.operand :=
  if_neg h

end Insn

namespace Code

/-! ## Bytes at an address -/

/-- The bytes lie at the address. -/
def Holds (c : Code) (a : Address) (bs : List UInt8) : Prop :=
  ∃ front back, c.bytes = front ++ (bs ++ back) ∧ a.toNat = c.base.toNat + front.length

theorem bytesFrom?_of_contains {c : Code} {a : Address} (h : c.contains a = true) :
    c.bytesFrom? a = some (c.bytes.drop (a.toNat - c.base.toNat)) := by
  have hle : c.base ≤ a := ((c.contains_iff a).1 h).1
  simp [bytesFrom?, offsetOf?, h, Address.distanceFrom?, hle]

theorem bytesFrom?_of_not_contains {c : Code} {a : Address} (h : c.contains a = false) :
    c.bytesFrom? a = none := by
  simp [bytesFrom?, offsetOf?, h]

theorem contains_of_bytesFrom? {c : Code} {a : Address} {bs : List UInt8}
    (h : c.bytesFrom? a = some bs) : c.contains a = true := by
  cases hin : c.contains a with
  | true => rfl
  | false => simp [bytesFrom?_of_not_contains hin] at h

/-- A front part of what lies behind an address lies at it. -/
theorem holds_iff_bytesFrom? {c : Code} {a : Address} {bs : List UInt8} (hne : bs ≠ []) :
    c.Holds a bs ↔ ∃ rest, c.bytesFrom? a = some (bs ++ rest) := by
  constructor
  · rintro ⟨front, back, hbytes, ha⟩
    have hpos : 0 < bs.length := List.length_pos_iff.2 hne
    have hlen := congrArg List.length hbytes
    simp only [List.length_append] at hlen
    have hin : c.contains a = true := (c.contains_iff a).2 (by omega)
    refine ⟨back, ?_⟩
    rw [bytesFrom?_of_contains hin, ha, Nat.add_sub_cancel_left, hbytes, List.drop_left]
  · rintro ⟨rest, h⟩
    have hin := contains_of_bytesFrom? h
    have hdrop : c.bytes.drop (a.toNat - c.base.toNat) = bs ++ rest := by
      simpa [bytesFrom?_of_contains hin] using h
    rcases (c.contains_iff a).1 hin with ⟨hle, hlt⟩
    refine ⟨c.bytes.take (a.toNat - c.base.toNat), rest, ?_, ?_⟩
    · rw [← hdrop, List.take_append_drop]
    · rw [List.length_take_of_le (by omega)]
      omega

/-! ## Inside and outside -/

theorem base_le_stop (c : Code) : c.base ≤ c.stop := by
  rw [Address.le_iff, toNat_stop]
  exact Nat.le_add_right _ _

/-- There are no more bytes up to the end than the code has. -/
theorem toNat_stop_sub_le {c : Code} {a : Address} (h : c.base ≤ a) :
    c.stop.toNat - a.toNat ≤ c.length := by
  have habove : c.base.toNat ≤ a.toNat := h
  have hlength : c.length = c.bytes.length := rfl
  rw [toNat_stop, hlength]
  omega

theorem isEmpty_eq_false_iff {c : Code} : c.isEmpty = false ↔ 0 < c.bytes.length := by
  rw [isEmpty, List.isEmpty_eq_false_iff, List.length_pos_iff]

theorem le_of_not_contains {c : Code} {a : Address} (hlo : c.base ≤ a)
    (h : c.contains a = false) : c.stop ≤ a := by
  have hout := mt (c.contains_iff a).2 (Bool.eq_false_iff.1 h)
  rw [Address.le_iff] at hlo ⊢
  rw [toNat_stop]
  omega

theorem toNat_succ_of_contains {c : Code} {a : Address} (h : c.contains a = true) :
    (a + 1).toNat = a.toNat + 1 ∧ (a + 1).toNat ≤ c.stop.toNat := by
  rcases (c.contains_iff a).1 h with ⟨_, hlt⟩
  have hfits := c.fits
  have hsucc : (a + 1).toNat = a.toNat + 1 := Address.toNat_add_of_lt (by omega)
  refine ⟨hsucc, ?_⟩
  rw [hsucc, toNat_stop]
  omega

/-! ## Decoding at an address -/

theorem decode_of_contains {c : Code} {a : Address} (h : c.contains a = true) :
    c.decode a = Insn.decodeBytes a (c.bytes.drop (a.toNat - c.base.toNat)) := by
  rcases (c.contains_iff a).1 h with ⟨hle, hlt⟩
  have hne : c.isEmpty = false := isEmpty_eq_false_iff.2 (by omega)
  have hstop : ¬c.stop ≤ a := by
    rw [Address.le_iff, toNat_stop]
    omega
  simp [decode, hne, hstop, bytesFrom?_of_contains h]

theorem decode_of_bytesFrom? {c : Code} {a : Address} {bs : List UInt8}
    (h : c.bytesFrom? a = some bs) : c.decode a = Insn.decodeBytes a bs := by
  have hin := contains_of_bytesFrom? h
  rw [bytesFrom?_of_contains hin] at h
  rw [decode_of_contains hin, Option.some.inj h]

theorem contains_of_decode {c : Code} {a : Address} {i : Insn} (h : c.decode a = .ok i) :
    c.contains a = true := by
  cases hin : c.contains a with
  | true => rfl
  | false =>
    simp only [decode, bytesFrom?_of_not_contains hin] at h
    split at h <;> cases h

theorem decodeBytes_of_decode {c : Code} {a : Address} {i : Insn} (h : c.decode a = .ok i) :
    Insn.decodeBytes a (c.bytes.drop (a.toNat - c.base.toNat)) = .ok i := by
  rw [← decode_of_contains (contains_of_decode h), h]

theorem start_of_decode {c : Code} {a : Address} {i : Insn} (h : c.decode a = .ok i) :
    i.start = a :=
  Insn.start_of_decodeBytes (decodeBytes_of_decode h)

/-- A decoded instruction is not empty and ends inside the code, so its end does not wrap. -/
theorem stop_of_decode {c : Code} {a : Address} {i : Insn} (h : c.decode a = .ok i) :
    i.stop.toNat = a.toNat + i.length ∧ 0 < i.length ∧ i.stop.toNat ≤ c.stop.toNat := by
  rcases (c.contains_iff a).1 (contains_of_decode h) with ⟨hle, hlt⟩
  rcases Insn.length_of_decodeBytes (decodeBytes_of_decode h) with ⟨hpos, _, hlen⟩
  rw [List.length_drop] at hlen
  have hfits := c.fits
  have hstop : i.stop.toNat = a.toNat + i.length := by
    rw [Insn.stop, start_of_decode h]
    exact Address.toNat_add_of_lt (by omega)
  refine ⟨hstop, hpos, ?_⟩
  rw [toNat_stop]
  omega

end Code

end CodeSurvey
