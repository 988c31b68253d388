import CodeSurvey.Proofs.Decode.Placement

/-!
# More and fewer bytes

What decoding at the start of some code has to do with decoding when more or fewer bytes follow.

* `Insn.decodeBytes_take` : bytes behind the limit do not count;
* `Insn.decodeBytes_append` : only an instruction that ran out of bytes can change its answer when
  there are more;
* `Insn.decodeBytes_of_cut` : a proper front part of an instruction runs out at its end;
* `Code.decode_front_law` : the three for placed code, with the record that a failure leaves.
-/

namespace CodeSurvey

namespace Insn

/-! ## Bytes at an address -/

theorem decodeBytes_take (a : Address) (bs : List UInt8) :
    decodeBytes a (bs.take maxLength) = decodeBytes a bs := by
  have htake : (bs.take maxLength).take maxLength = bs.take maxLength := by
    rw [List.take_take, Nat.min_self]
  simp only [decodeBytes, htake]

/-- The answer is a fact about the bytes that were looked at, unless the end was. -/
theorem decodeBytes_append {a : Address} {bs : List UInt8} (more : List UInt8)
    (h : ∀ at_ n, decodeBytes a bs ≠ .error (.truncated at_ n)) :
    decodeBytes a (bs ++ more) = decodeBytes a bs := by
  have hfront : (bs ++ more).take maxLength =
      bs.take maxLength ++ more.take (maxLength - bs.length) := List.take_append
  cases hread : Encoding.read (bs.take maxLength) with
  | ok r =>
    have hmore := Encoding.read_append_of_ok hread (more.take (maxLength - bs.length))
    simp [decodeBytes, hfront, hread, hmore]
  | error f =>
    cases f with
    | unsupported op =>
      have hmore := Encoding.read_append_of_unsupported hread (more.take (maxLength - bs.length))
      simp [decodeBytes, hfront, hread, hmore]
    | ranOut =>
      by_cases hlimit : (bs.take maxLength).length = maxLength
      · -- The limit was reached, so none of the bytes behind is looked at.
        have hlong : maxLength ≤ bs.length := by
          rw [List.length_take] at hlimit
          omega
        have hsame : (bs ++ more).take maxLength = bs.take maxLength :=
          List.take_append_of_le_length hlong
        simp only [decodeBytes, hsame]
      · have hran : decodeBytes a bs = .error (.truncated a (bs.take maxLength).length) := by
          simp only [decodeBytes, hread, if_neg hlimit]
        exact absurd hran (h _ _)

/-- The reader is shown the cut bytes only, and they begin an encoding without being one. -/
theorem decodeBytes_of_cut {a : Address} {bs : List UInt8} {i : Insn}
    (h : decodeBytes a bs = .ok i) {k : Nat} (hk : k < i.length) :
    decodeBytes a (bs.take k) = .error (.truncated a k) := by
  rcases decodeBytes_eq_ok_iff.1 h with ⟨e, shape, rest, hwf, rfl, hlen, rfl⟩
  have hcut : k < e.toBytes.length := hk
  have hfront : ((e.toBytes ++ rest).take k).take maxLength = e.toBytes.take k := by
    have hbelow : k ≤ maxLength := by omega
    rw [List.take_take, Nat.min_eq_right hbelow]
    exact List.take_append_of_le_length (Nat.le_of_lt hcut)
  have hread : Encoding.read (e.toBytes.take k) = .error .ranOut := Encoding.read_of_cut hwf hcut
  have hlength : (e.toBytes.take k).length = k := List.length_take_of_le (Nat.le_of_lt hcut)
  have hshort : k ≠ maxLength := by omega
  simp [decodeBytes, hfront, hread, hlength, hshort]

end Insn

namespace Code

/-! ## Placed code -/

/-- The first `n` bytes, where they lie. -/
def front (c : Code) (n : Nat) : Code where
  base := c.base
  bytes := c.bytes.take n
  fits := by
    have hfits := c.fits
    have hlen := List.length_take_le' n c.bytes
    omega

theorem decode_base {c : Code} (h : c.isEmpty = false) :
    c.decode c.base = Insn.decodeBytes c.base c.bytes := by
  have hpos : 0 < c.bytes.length := isEmpty_eq_false_iff.1 h
  have hin : c.contains c.base = true := (c.contains_iff c.base).2 (by omega)
  rw [decode_of_contains hin, Nat.sub_self, List.drop_zero]

theorem decode_of_isEmpty {c : Code} (h : c.isEmpty = true) (a : Address) :
    c.decode a = .error (.empty a) := by
  simp [decode, h]

theorem isEmpty_front {c : Code} (h : c.isEmpty = false) {k : Nat} (hk : 0 < k) :
    (c.front k).isEmpty = false := by
  have hpos : 0 < c.bytes.length := isEmpty_eq_false_iff.1 h
  have hlen : (c.front k).bytes.length = min k c.bytes.length := List.length_take
  exact isEmpty_eq_false_iff.2 (by omega)

theorem decodeInto_of_error {c : Code} {a : Address} {e : DecodeError} (h : c.decode a = .error e)
    (record : Insn) : c.decodeInto record a = (.blank, some e) := by
  simp [decodeInto, h]

/-- Every answer but running out of bytes stays when more follow. A proper front part of an
instruction runs out at its end, an empty one is nothing to decode, and both leave the record blank.
The first fifteen bytes decide. -/
theorem decode_front_law {c : Code} (hne : c.isEmpty = false) :
    (∀ (more : List UInt8) (fits : c.base.toNat + (c.bytes ++ more).length < 1 <<< 64),
      (∀ at_ n, c.decode c.base ≠ .error (.truncated at_ n)) →
        decode ⟨c.base, c.bytes ++ more, fits⟩ c.base = c.decode c.base) ∧
      (∀ i, c.decode c.base = .ok i → ∀ record : Insn,
        (∀ k, 0 < k → k < i.length →
          (c.front k).decodeInto record c.base = (.blank, some (.truncated c.base k))) ∧
        (c.front 0).decodeInto record c.base = (.blank, some (.empty c.base))) ∧
      c.decode c.base = (c.front 15).decode c.base := by
  have hwhole := decode_base hne
  refine ⟨?_, ?_, ?_⟩
  · intro more fits hnot
    have hlonger : (⟨c.base, c.bytes ++ more, fits⟩ : Code).isEmpty = false := by
      have hpos : 0 < c.bytes.length := isEmpty_eq_false_iff.1 hne
      have hlen : (c.bytes ++ more).length = c.bytes.length + more.length := List.length_append
      exact isEmpty_eq_false_iff.2 (show 0 < (c.bytes ++ more).length by omega)
    rw [hwhole] at hnot ⊢
    calc
      decode ⟨c.base, c.bytes ++ more, fits⟩ c.base =
          Insn.decodeBytes c.base (c.bytes ++ more) := decode_base hlonger
      _ = Insn.decodeBytes c.base c.bytes := Insn.decodeBytes_append more hnot
  · intro i hi record
    rw [hwhole] at hi
    refine ⟨?_, ?_⟩
    · intro k hpos hk
      have hcut : (c.front k).decode c.base = .error (.truncated c.base k) := by
        calc
          (c.front k).decode c.base = Insn.decodeBytes c.base (c.bytes.take k) :=
            decode_base (isEmpty_front hne hpos)
          _ = .error (.truncated c.base k) := Insn.decodeBytes_of_cut hi hk
      exact decodeInto_of_error hcut record
    · have hnothing : (c.front 0).decode c.base = .error (.empty c.base) :=
        decode_of_isEmpty rfl c.base
      exact decodeInto_of_error hnothing record
  · calc
      c.decode c.base = Insn.decodeBytes c.base c.bytes := hwhole
      _ = Insn.decodeBytes c.base (c.bytes.take 15) := (Insn.decodeBytes_take c.base c.bytes).symm
      _ = (c.front 15).decode c.base := (decode_base (isEmpty_front hne (by decide))).symm

/-- A store of a constant behind a segment prefix, ten bytes, in front of a return. -/
def storeCode : Code :=
  ⟨.ofNat 0x401000,
    [0x2e, 0x48, 0xc7, 0x44, 0x24, 0x08, 0x01, 0x00, 0x00, 0x80, 0xc3], by decide⟩

theorem decode_front_law_storeCode :
    ∃ i, storeCode.decode storeCode.base = .ok i ∧ i.length = 10 ∧
      decode ⟨storeCode.base, storeCode.bytes ++ [0x06, 0xff], by decide⟩ storeCode.base = .ok i ∧
      (storeCode.front 9).decodeInto i storeCode.base =
        (.blank, some (.truncated storeCode.base 9)) ∧
      (storeCode.front 0).decodeInto i storeCode.base = (.blank, some (.empty storeCode.base)) ∧
      (storeCode.front 15).decode storeCode.base = .ok i := by
  have hlaw := decode_front_law (c := storeCode) rfl
  refine ⟨_, rfl, rfl, ?_, ?_, ?_, ?_⟩
  · exact hlaw.1 [0x06, 0xff] (by decide) (by intro at_ n h; cases h)
  · exact ((hlaw.2.1 _ rfl) _).1 9 (by decide) (by decide)
  · exact ((hlaw.2.1 _ rfl) _).2
  · exact hlaw.2.2.symm

end Code

end CodeSurvey
