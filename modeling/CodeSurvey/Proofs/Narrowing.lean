import CodeSurvey.Proofs.Address
import CodeSurvey.Proofs.Decode.Placement

/-!
# Narrowed code

A window of some code, and what is left of it from an address on, hold bytes of the code at their
old addresses and nothing else. What is decoded depends on the bytes of the instruction alone, so a
window gives the instructions that lie in it whole.

* `Code.holds_subrange_iff`, `holds_tailFrom_iff` : what lies where in a window and in a tail;
* `Code.Narrows c d` : `d` is made from `c` by windows and tails;
* `Code.Narrows.holds` : what lies in narrowed code lies in the whole;
* `Code.decode_eq_ok_iff` : decoding finds an encoding at the address;
* `Code.decode_subrange_iff` : a window gives the instructions that lie in it.
-/

namespace CodeSurvey.Code

variable {c d : Code} {a b start stop : Address} {bs : List UInt8}

/-! ## Bytes at an address -/

theorem holds_iff_drop (hne : bs ≠ []) :
    c.Holds a bs ↔
      c.base.toNat ≤ a.toNat ∧ bs <+: c.bytes.drop (a.toNat - c.base.toNat) := by
  constructor
  · rintro ⟨front, back, hbytes, ha⟩
    refine ⟨by omega, back, ?_⟩
    rw [ha, Nat.add_sub_cancel_left, hbytes, List.drop_left]
  · rintro ⟨hlow, back, hback⟩
    have hpos : 0 < bs.length := List.length_pos_iff.2 hne
    have hlength := congrArg List.length hback
    rw [List.length_append, List.length_drop] at hlength
    refine ⟨c.bytes.take (a.toNat - c.base.toNat), back, ?_, ?_⟩
    · rw [hback, List.take_append_drop]
    · rw [List.length_take_of_le (by omega)]
      omega

/-- What lies at an address lies in the code with all its bytes. -/
theorem Holds.bounds (h : c.Holds a bs) :
    c.base.toNat ≤ a.toNat ∧ a.toNat + bs.length ≤ c.base.toNat + c.bytes.length := by
  rcases h with ⟨front, back, hbytes, ha⟩
  have hlength := congrArg List.length hbytes
  simp only [List.length_append] at hlength
  omega

theorem Holds.eq_take (h : c.Holds a bs) :
    bs = (c.bytes.drop (a.toNat - c.base.toNat)).take bs.length := by
  rcases h with ⟨front, back, hbytes, ha⟩
  rw [ha, Nat.add_sub_cancel_left, hbytes, List.drop_left, List.take_left]

theorem contains_iff_holds : c.contains a = true ↔ ∃ x, c.Holds a [x] := by
  constructor
  · intro hin
    rcases (c.contains_iff a).1 hin with ⟨hlow, hhigh⟩
    have hsplit : c.bytes.drop (a.toNat - c.base.toNat) =
        c.bytes[a.toNat - c.base.toNat] :: c.bytes.drop (a.toNat - c.base.toNat + 1) :=
      (List.getElem_cons_drop (by omega)).symm
    exact ⟨_, (holds_iff_drop (List.cons_ne_nil _ _)).2 ⟨hlow, _, hsplit.symm⟩⟩
  · rintro ⟨x, hx⟩
    have hbounds := hx.bounds
    rw [List.length_singleton] at hbounds
    exact (c.contains_iff a).2 (by omega)

/-! ## Windows and tails -/

/-- The start and the bytes of a window, which has none if its ends, moved into the code, lie in the
wrong order. -/
theorem base_bytes_subrange (h : c.subrange start stop = .ok d) :
    d.base.toNat = max start.toNat c.base.toNat ∧
      d.bytes = (c.bytes.drop (d.base.toNat - c.base.toNat)).take
        (min stop.toNat c.stop.toNat - d.base.toNat) := by
  have hlo : (max start c.start).toNat = max start.toNat c.base.toNat :=
    Address.toNat_max start c.start
  have hhi := Address.toNat_min stop c.stop
  rw [subrange] at h
  split at h
  · cases h
  · simp only at h
    split at h
    · cases h
      refine ⟨hlo, ?_⟩
      rw [← hhi]
      rfl
    · next hge =>
      cases h
      rw [Address.lt_iff, hhi] at hge
      refine ⟨hlo, ?_⟩
      show [] = List.take (min stop.toNat c.stop.toNat - (max start c.start).toNat) _
      rw [Nat.sub_eq_zero_of_le (Nat.le_of_not_lt hge), List.take_zero]

/-- Ends in the right order make a window, wherever they lie. -/
theorem exists_subrange (c : Code) (h : start ≤ stop) : ∃ d, c.subrange start stop = .ok d := by
  have hright : ¬stop < start := Nat.not_lt_of_le h
  rw [subrange, if_neg hright]
  simp only
  split
  · exact ⟨_, rfl⟩
  · exact ⟨_, rfl⟩

/-- A window has what lies in the code between its two ends. -/
theorem holds_subrange_iff (h : c.subrange start stop = .ok d) (hne : bs ≠ []) :
    d.Holds a bs ↔
      c.Holds a bs ∧ start.toNat ≤ a.toNat ∧ a.toNat + bs.length ≤ stop.toNat := by
  rcases base_bytes_subrange h with ⟨hbase, hbytes⟩
  have hpos : 0 < bs.length := List.length_pos_iff.2 hne
  have hend := c.toNat_stop
  rw [holds_iff_drop hne, holds_iff_drop hne, hbytes, List.drop_take, List.drop_drop,
    List.prefix_take_iff]
  constructor
  · rintro ⟨hlow, hfront, hshort⟩
    have hsum : d.base.toNat - c.base.toNat + (a.toNat - d.base.toNat) =
        a.toNat - c.base.toNat := by
      omega
    rw [hsum] at hfront
    exact ⟨⟨by omega, hfront⟩, by omega, by omega⟩
  · rintro ⟨⟨hlow, hfront⟩, hstart, hstop⟩
    have hsum : d.base.toNat - c.base.toNat + (a.toNat - d.base.toNat) =
        a.toNat - c.base.toNat := by
      omega
    have hlength := hfront.length_le
    rw [List.length_drop] at hlength
    rw [hsum]
    exact ⟨by omega, hfront, by omega⟩

theorem base_bytes_tailFrom (h : c.contains b = true) :
    (c.tailFrom b).base = b ∧ (c.tailFrom b).bytes = c.bytes.drop (b.toNat - c.base.toNat) := by
  rw [tailFrom, dif_pos h]
  exact ⟨rfl, rfl⟩

/-- The bytes from an address on hold what lies there and farther up. -/
theorem holds_drop_iff (hlow : c.base.toNat ≤ b.toNat) (hbase : d.base = b)
    (hbytes : d.bytes = c.bytes.drop (b.toNat - c.base.toNat)) (hne : bs ≠ []) :
    d.Holds a bs ↔ c.Holds a bs ∧ b.toNat ≤ a.toNat := by
  rw [holds_iff_drop hne, holds_iff_drop hne, hbase, hbytes, List.drop_drop]
  have hsum (hba : b.toNat ≤ a.toNat) :
      b.toNat - c.base.toNat + (a.toNat - b.toNat) = a.toNat - c.base.toNat := by
    omega
  constructor
  · intro hrest
    rcases hrest with ⟨hba, hfront⟩
    rw [hsum hba] at hfront
    exact ⟨⟨by omega, hfront⟩, hba⟩
  · intro hwhole
    rcases hwhole with ⟨⟨_, hfront⟩, hba⟩
    rw [hsum hba]
    exact ⟨hba, hfront⟩

/-- What is left from an address of the code on has what lies there and farther up. -/
theorem holds_tailFrom_iff (hne : bs ≠ []) :
    (c.tailFrom b).Holds a bs ↔ c.Holds a bs ∧ c.contains b = true ∧ b.toNat ≤ a.toNat := by
  by_cases hin : c.contains b = true
  · rcases base_bytes_tailFrom hin with ⟨hbase, hbytes⟩
    have hlow := ((c.contains_iff b).1 hin).1
    rw [holds_drop_iff hlow hbase hbytes hne]
    simp only [hin, true_and]
  · -- Outside the code there is nothing left.
    rw [tailFrom, dif_neg hin]
    refine iff_of_false ?_ fun hall => hin hall.2.1
    intro hholds
    have hbounds := hholds.bounds
    have hpos : 0 < bs.length := List.length_pos_iff.2 hne
    simp only [nothingAt, List.length_nil] at hbounds
    omega

/-- A window has those addresses of the code that lie between its ends. -/
theorem contains_subrange_iff (h : c.subrange start stop = .ok d) :
    d.contains a = true ↔ c.contains a = true ∧ start.toNat ≤ a.toNat ∧ a.toNat < stop.toNat := by
  rw [contains_iff_holds, contains_iff_holds, ← exists_and_right]
  exact exists_congr fun x => holds_subrange_iff h (List.cons_ne_nil x [])

/-! ## Chains of windows and tails -/

/-- The second code is made from the first by taking windows and tails, one after the other. -/
inductive Narrows : Code → Code → Prop
  | refl (c : Code) : Narrows c c
  | subrange {c d e : Code} {start stop : Address} (chain : Narrows c d)
      (window : d.subrange start stop = .ok e) : Narrows c e
  | tailFrom {c d : Code} (chain : Narrows c d) (a : Address) : Narrows c (d.tailFrom a)

/-- Narrowing makes up no byte and moves none. -/
theorem Narrows.holds (h : c.Narrows d) (hne : bs ≠ []) (hd : d.Holds a bs) : c.Holds a bs := by
  induction h with
  | refl => exact hd
  | subrange _ hwindow ih => exact ih ((holds_subrange_iff hwindow hne).1 hd).1
  | tailFrom _ b ih => exact ih ((holds_tailFrom_iff hne).1 hd).1

/-! ## Decoding -/

/-- Decoding finds an encoding at the address, and looks at no other bytes for what it gives. -/
theorem decode_eq_ok_iff {i : Insn} :
    c.decode a = .ok i ↔
      ∃ (e : Encoding) (shape : Shape), e.WellFormed shape ∧
        e.toBytes.length ≤ Insn.maxLength ∧ c.Holds a e.toBytes ∧ i = Insn.ofEncoding a e := by
  constructor
  · intro h
    rcases Insn.decodeBytes_eq_ok_iff.1 (decodeBytes_of_decode h) with
      ⟨e, shape, rest, hwf, hbytes, hshort, hi⟩
    have hne : e.toBytes ≠ [] := List.length_pos_iff.1 e.length_toBytes_pos
    have hlow := ((c.contains_iff a).1 (contains_of_decode h)).1
    exact ⟨e, shape, hwf, hshort, (holds_iff_drop hne).2 ⟨hlow, rest, hbytes.symm⟩, hi⟩
  · rintro ⟨e, shape, hwf, hshort, hholds, hi⟩
    have hne : e.toBytes ≠ [] := List.length_pos_iff.1 e.length_toBytes_pos
    rcases (holds_iff_bytesFrom? hne).1 hholds with ⟨rest, hfrom⟩
    rw [decode_of_bytesFrom? hfrom]
    exact Insn.decodeBytes_eq_ok_iff.2 ⟨e, shape, rest, hwf, rfl, hshort, hi⟩

/-- A window gives exactly the instructions of the code that lie between its ends. -/
theorem decode_subrange_iff (h : c.subrange start stop = .ok d) {i : Insn} :
    d.decode a = .ok i ↔
      c.decode a = .ok i ∧ start.toNat ≤ a.toNat ∧ a.toNat + i.length ≤ stop.toNat := by
  rw [decode_eq_ok_iff, decode_eq_ok_iff]
  constructor
  · rintro ⟨e, shape, hwf, hshort, hholds, rfl⟩
    have hne : e.toBytes ≠ [] := List.length_pos_iff.1 e.length_toBytes_pos
    rcases (holds_subrange_iff h hne).1 hholds with ⟨hwhole, hstart, hstop⟩
    exact ⟨⟨e, shape, hwf, hshort, hwhole, rfl⟩, hstart, hstop⟩
  · rintro ⟨⟨e, shape, hwf, hshort, hwhole, rfl⟩, hstart, hstop⟩
    have hne : e.toBytes ≠ [] := List.length_pos_iff.1 e.length_toBytes_pos
    exact ⟨e, shape, hwf, hshort, (holds_subrange_iff h hne).2 ⟨hwhole, hstart, hstop⟩, rfl⟩

end CodeSurvey.Code
