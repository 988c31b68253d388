import CodeSurvey.Proofs.Decode.FrontPart
import CodeSurvey.Proofs.Narrowing

/-!
# Bounds of decoding

What decoding leaves in a record: an instruction that lies in the code with all its bytes, or
nothing at all. What the record held before has no say in it.

* `Insn.LiesIn i c a` : `i` is at `a`, and the code `c` has all of it;
* `Code.liesIn_of_decode` : so it is with everything that is decoded;
* `Insn.LiesIn.bytesIn?_eq` : in narrowed code, the bytes are still those of the whole;
* `Code.decodeInto_bounded` : both outcomes, for code made by any chain of windows and tails.
-/

namespace CodeSurvey

/-- The instruction is at the address and has one to fifteen bytes. All of them lie in the code, and
its end does not wrap. -/
structure Insn.LiesIn (i : Insn) (c : Code) (a : Address) : Prop where
  start : i.start = a
  length_pos : 1 ≤ i.length
  length_le : i.length ≤ 15
  above : c.start.toNat ≤ i.start.toNat
  below : i.start.toNat + i.length ≤ c.stop.toNat
  stop : i.stop.toNat = i.start.toNat + i.length
  bytes : ∃ bs, i.bytesIn? c = some bs ∧ bs.length = i.length ∧ c.Holds a bs

/-- Narrowing leaves the bytes of an instruction where they were. -/
theorem Insn.LiesIn.bytesIn?_eq {i : Insn} {c d : Code} {a : Address} (h : i.LiesIn d a)
    (hchain : c.Narrows d) :
    c.base.toNat ≤ a.toNat ∧
      i.bytesIn? d = some ((c.bytes.drop (a.toNat - c.base.toNat)).take i.length) := by
  rcases h.bytes with ⟨bs, hbytes, hlength, hholds⟩
  have hne : bs ≠ [] := by
    have hpos := h.length_pos
    exact List.length_pos_iff.1 (by omega)
  have hwhole : c.Holds a bs := hchain.holds hne hholds
  have htake := hwhole.eq_take
  rw [hlength] at htake
  exact ⟨hwhole.bounds.1, by rw [hbytes, ← htake]⟩

namespace Code

variable {c d : Code} {a : Address} {i : Insn}

theorem liesIn_of_decode (h : c.decode a = .ok i) : i.LiesIn c a := by
  have hend := c.toNat_stop
  have hstop := (stop_of_decode h).1
  -- An encoding lies at the address with all its bytes, and the instruction is as long as it is.
  rcases decode_eq_ok_iff.1 h with ⟨e, shape, hwf, hshort, hholds, rfl⟩
  rcases hholds.bounds with ⟨hlow, hhigh⟩
  have hlength : (Insn.ofEncoding a e).length = e.toBytes.length := rfl
  have hbelow : a.toNat + e.toBytes.length ≤ c.stop.toNat := by omega
  refine ⟨rfl, e.length_toBytes_pos, hshort, hlow, hbelow, hstop, e.toBytes, ?_, rfl, hholds⟩
  have hne : e.toBytes ≠ [] := List.length_pos_iff.1 e.length_toBytes_pos
  rcases (holds_iff_bytesFrom? hne).1 hholds with ⟨rest, hfrom⟩
  have hstart : (Insn.ofEncoding a e).start = a := rfl
  simp [Insn.bytesIn?, hstart, hlength, hfrom]

theorem decodeInto_eq_ok_iff {record : Insn} :
    c.decodeInto record a = (i, none) ↔ c.decode a = .ok i := by
  cases hdecode : c.decode a with
  | ok j => simp [decodeInto, hdecode]
  | error e => simp [decodeInto, hdecode]

theorem decodeInto_eq_error_iff {record : Insn} {e : DecodeError} :
    c.decodeInto record a = (i, some e) ↔ c.decode a = .error e ∧ i = .blank := by
  cases hdecode : c.decode a with
  | ok j => simp [decodeInto, hdecode]
  | error f => simp [decodeInto, hdecode, and_comm, eq_comm]

theorem eq_of_place {base : Address} {bytes : List UInt8} (h : place base bytes = .ok c) :
    c.base = base ∧ c.bytes = bytes := by
  rw [place] at h
  split at h
  · cases h
    exact ⟨rfl, rfl⟩
  · cases h

/-- Decoding into a record gives an instruction that lies in the code, or else leaves the record
blank, and neither depends on what was there before. The code may be any that windows and tails make
of placed bytes. Its end does not wrap, and the bytes of the instruction are those that were placed
at its address. -/
theorem decodeInto_bounded {base : Address} {bytes : List UInt8}
    (hplace : place base bytes = .ok c) (hchain : c.Narrows d) (a : Address) :
    d.stop.toNat = d.start.toNat + d.length ∧
      (∀ record i, d.decodeInto record a = (i, none) →
        i.LiesIn d a ∧ base.toNat ≤ a.toNat ∧
          i.bytesIn? d = some ((bytes.drop (a.toNat - base.toNat)).take i.length)) ∧
      (∀ record i e, d.decodeInto record a = (i, some e) → i = .blank) ∧
      ∀ record record', d.decodeInto record a = d.decodeInto record' a := by
  rcases eq_of_place hplace with ⟨rfl, rfl⟩
  refine ⟨d.toNat_stop, ?_, ?_, fun _ _ => rfl⟩
  · intro record i hi
    have hin : i.LiesIn d a := liesIn_of_decode (decodeInto_eq_ok_iff.1 hi)
    exact ⟨hin, hin.bytesIn?_eq hchain⟩
  · intro record i e hi
    exact (decodeInto_eq_error_iff.1 hi).2

/-- A store between filler and a return. -/
def paddedStore : Code :=
  ⟨.ofNat 0x401000, [0x90, 0x48, 0xc7, 0x44, 0x24, 0x08, 0x01, 0x00, 0x00, 0x80, 0xc3], by decide⟩

/-- What a tail and a window leave of it. -/
def storeOnly : Code :=
  ⟨.ofNat 0x401001, [0x48, 0xc7, 0x44, 0x24, 0x08, 0x01, 0x00, 0x00, 0x80], by decide⟩

theorem narrows_storeOnly : paddedStore.Narrows storeOnly := by
  have hwindow : (paddedStore.tailFrom (.ofNat 0x401001)).subrange (.ofNat 0x400000)
      (.ofNat 0x40100a) = .ok storeOnly := rfl
  exact .subrange (.tailFrom (.refl paddedStore) (.ofNat 0x401001)) hwindow

/-- The store is decoded. Behind its end nothing is, and the record that held it is blank again. -/
theorem decodeInto_bounded_storeOnly :
    place (.ofNat 0x401000) paddedStore.bytes = .ok paddedStore ∧
      paddedStore.Narrows storeOnly ∧
      ∃ i, storeOnly.decodeInto .blank (.ofNat 0x401001) = (i, none) ∧
        i.LiesIn storeOnly (.ofNat 0x401001) ∧
        i.bytesIn? storeOnly =
          some ((paddedStore.bytes.drop ((Address.ofNat 0x401001).toNat -
            (Address.ofNat 0x401000).toNat)).take i.length) ∧
        ∃ j, storeOnly.decodeInto i (.ofNat 0x40100a) =
          (j, some (.empty (.ofNat 0x40100a))) ∧ j = .blank := by
  have hplace : place (.ofNat 0x401000) paddedStore.bytes = .ok paddedStore := rfl
  have hfirst := decodeInto_bounded hplace narrows_storeOnly (.ofNat 0x401001)
  have hbehind := decodeInto_bounded hplace narrows_storeOnly (.ofNat 0x40100a)
  rcases hfirst.2.1 .blank _ rfl with ⟨hin, _, hbytes⟩
  have hblank (i : Insn) : storeOnly.decodeInto i (.ofNat 0x40100a) =
      (.blank, some (.empty (.ofNat 0x40100a))) := rfl
  exact ⟨hplace, narrows_storeOnly, _, rfl, hin, hbytes, _, hblank _,
    hbehind.2.2.1 _ _ _ (hblank .blank)⟩

end Code

end CodeSurvey
