import CodeSurvey.Proofs.Decode.Bounds
import CodeSurvey.Proofs.Encoding.Faults

/-!
# Why decoding fails

Each fault of decoding says one thing about the code and the address, and says it exactly.

* `Insn.decodeBytes_eq_truncated_iff`, `decodeBytes_eq_tooLong_iff`,
  `decodeBytes_eq_unsupportedOpcode_iff` : the faults that the bytes decide;
* `Code.Remains c a bs` : what the code has from an address on;
* `Code.end_or_lt_or_remains` : an address lies behind the code, in front of it or in it;
* `Code.decode_fault_iff` : all faults of decoding at an address.
-/

namespace CodeSurvey

/-! ## The faults that the bytes decide -/

namespace Insn

variable {a b : Address} {bs : List UInt8}

/-- Where the reader runs out, the number of bytes decides whose fault it is. -/
theorem decodeBytes_of_ranOut (h : Encoding.read (bs.take 15) = .error .ranOut) :
    decodeBytes a bs =
      .error (if 15 ≤ bs.length then .tooLong a else .truncated a bs.length) := by
  have hshown : Encoding.read (bs.take maxLength) = .error .ranOut := h
  have hlength : (bs.take maxLength).length = min 15 bs.length := List.length_take
  -- The reader is shown fifteen bytes if there are so many, and all of them otherwise.
  by_cases hlong : 15 ≤ bs.length
  · have hfull : min 15 bs.length = maxLength := Nat.min_eq_left hlong
    simp only [decodeBytes, hshown, hlength, if_pos hfull, if_pos hlong]
  · have hrest : min 15 bs.length = bs.length := Nat.min_eq_right (Nat.le_of_not_le hlong)
    have hless : bs.length ≠ maxLength := fun heq => hlong (Nat.le_of_eq heq.symm)
    simp only [decodeBytes, hshown, hlength, hrest, if_neg hless, if_neg hlong]

theorem decodeBytes_eq_error_iff {e : DecodeError} :
    decodeBytes a bs = .error e ↔
      (∃ op, Encoding.read (bs.take 15) = .error (.unsupported op) ∧
        .unsupportedOpcode a op = e) ∨
      Encoding.read (bs.take 15) = .error .ranOut ∧
        (if 15 ≤ bs.length then .tooLong a else .truncated a bs.length) = e := by
  have hshown : Encoding.read (bs.take maxLength) = Encoding.read (bs.take 15) := rfl
  cases hread : Encoding.read (bs.take 15) with
  | ok r => simp [decodeBytes, hshown, hread]
  | error f =>
    cases f with
    | unsupported op => simp [decodeBytes, hshown, hread]
    | ranOut => simp [decodeBytes_of_ranOut hread]

theorem decodeBytes_eq_truncated_iff {n : Nat} :
    decodeBytes a bs = .error (.truncated b n) ↔
      b = a ∧ n = bs.length ∧ bs.length < 15 ∧ Encoding.IsCut bs := by
  rw [decodeBytes_eq_error_iff, ← Encoding.read_eq_ranOut_iff]
  by_cases hlong : 15 ≤ bs.length
  · simp [hlong, Nat.not_lt_of_le hlong]
  · have hlt : bs.length < 15 := Nat.lt_of_not_le hlong
    have hall : bs.take 15 = bs := List.take_of_length_le (Nat.le_of_lt hlt)
    rw [hall, if_neg hlong]
    constructor
    · intro h
      rcases h with ⟨op, _, he⟩ | ⟨hread, he⟩
      · cases he
      · cases he
        exact ⟨rfl, rfl, hlt, hread⟩
    · intro h
      rcases h with ⟨rfl, rfl, _, hread⟩
      exact .inr ⟨hread, rfl⟩

theorem decodeBytes_eq_tooLong_iff :
    decodeBytes a bs = .error (.tooLong b) ↔
      b = a ∧ 15 ≤ bs.length ∧ Encoding.IsCut (bs.take 15) := by
  rw [decodeBytes_eq_error_iff, ← Encoding.read_eq_ranOut_iff]
  by_cases hlong : 15 ≤ bs.length
  · simp [hlong, and_comm, eq_comm]
  · simp [hlong]

theorem decodeBytes_eq_unsupportedOpcode_iff {op : Opcode} :
    decodeBytes a bs = .error (.unsupportedOpcode b op) ↔
      b = a ∧ op.shape? = none ∧
        ∃ o : Encoding.Opening, o.opcode = op ∧ o.Begins (bs.take 15) := by
  rw [decodeBytes_eq_error_iff, ← Encoding.read_eq_unsupported_iff_begins]
  constructor
  · intro h
    rcases h with ⟨op', hread, he⟩ | ⟨_, he⟩
    · cases he
      exact ⟨rfl, hread⟩
    · split at he <;> cases he
  · intro h
    rcases h with ⟨rfl, hread⟩
    exact .inl ⟨op, hread, rfl⟩

/-- From bytes there are three faults, all at the address asked for. -/
theorem fault_of_decodeBytes {e : DecodeError} (h : decodeBytes a bs = .error e) :
    (∃ op, e = .unsupportedOpcode a op) ∨ e = .tooLong a ∨ e = .truncated a bs.length := by
  rcases decodeBytes_eq_error_iff.1 h with ⟨op, _, he⟩ | ⟨_, he⟩
  · exact .inl ⟨op, he.symm⟩
  · split at he
    · exact .inr (.inl he.symm)
    · exact .inr (.inr he.symm)

end Insn

/-! ## All faults -/

namespace Code

/-- All that the code has from an address on, and that is something. -/
structure Remains (c : Code) (a : Address) (bs : List UInt8) : Prop where
  ne_nil : bs ≠ []
  holds : c.Holds a bs
  length : a.toNat + bs.length = c.stop.toNat

theorem remains_iff {c : Code} {a : Address} {bs : List UInt8} :
    c.Remains a bs ↔
      c.contains a = true ∧ bs = c.bytes.drop (a.toNat - c.base.toNat) := by
  have hend := c.toNat_stop
  constructor
  · intro h
    have hpos : 0 < bs.length := List.length_pos_iff.2 h.ne_nil
    have hlength := h.length
    have hlow := h.holds.bounds.1
    refine ⟨(c.contains_iff a).2 (by omega), ?_⟩
    -- The rest of the code is as long as the bytes are, so it is nothing else.
    have hrest : (c.bytes.drop (a.toNat - c.base.toNat)).length ≤ bs.length := by
      rw [List.length_drop]
      omega
    rw [← List.take_of_length_le hrest]
    exact h.holds.eq_take
  · intro h
    rcases h with ⟨hin, rfl⟩
    rcases (c.contains_iff a).1 hin with ⟨hlow, hhigh⟩
    have hne : c.bytes.drop (a.toNat - c.base.toNat) ≠ [] := by
      rw [Ne, List.drop_eq_nil_iff]
      omega
    refine ⟨hne, (holds_iff_drop hne).2 ⟨hlow, List.prefix_rfl⟩, ?_⟩
    rw [List.length_drop]
    omega

theorem Remains.decode_eq {c : Code} {a : Address} {bs : List UInt8} (h : c.Remains a bs) :
    c.decode a = Insn.decodeBytes a bs := by
  rcases remains_iff.1 h with ⟨hin, rfl⟩
  exact decode_of_contains hin

variable {c : Code} {a b : Address}

theorem decode_of_end (h : c.bytes = [] ∨ c.stop ≤ a) : c.decode a = .error (.empty a) := by
  have hcond : (c.isEmpty || decide (c.stop ≤ a)) = true := by
    rcases h with hnil | hstop
    · simp [isEmpty, hnil]
    · simp [hstop]
  simp only [decode, hcond, if_true]

theorem decode_of_lt_start (hne : c.bytes ≠ []) (hlt : a < c.start) :
    c.decode a = .error (.outOfBounds a) := by
  have hlow : a.toNat < c.base.toNat := hlt
  have hstop : ¬c.stop ≤ a := by
    rw [Address.le_iff, toNat_stop]
    omega
  have hout : c.contains a = false := by
    refine Bool.eq_false_iff.2 fun hin => ?_
    have hbounds := (c.contains_iff a).1 hin
    omega
  have hempty : c.isEmpty = false := isEmpty_eq_false_iff.2 (List.length_pos_iff.2 hne)
  simp [decode, hempty, hstop, bytesFrom?_of_not_contains hout]

/-- An address lies behind the code, in front of it or in it. -/
theorem end_or_lt_or_remains (c : Code) (a : Address) :
    (c.bytes = [] ∨ c.stop ≤ a) ∨ (c.bytes ≠ [] ∧ a < c.start) ∨
      c.bytes ≠ [] ∧ c.start ≤ a ∧ a < c.stop ∧ ∃ bs, c.Remains a bs := by
  have hend := c.toNat_stop
  by_cases hnil : c.bytes = []
  · exact .inl (.inl hnil)
  · by_cases hstop : c.stop ≤ a
    · exact .inl (.inr hstop)
    · by_cases hlow : a < c.start
      · exact .inr (.inl ⟨hnil, hlow⟩)
      · have hge : c.start ≤ a := Nat.le_of_not_lt hlow
        have hlt : a < c.stop := Nat.lt_of_not_le hstop
        have hin : c.contains a = true := by
          rw [contains, Address.isWithin_iff]
          exact ⟨hge, hlt⟩
        exact .inr (.inr ⟨hnil, hge, hlt, _, remains_iff.2 ⟨hin, rfl⟩⟩)

/-- Where the address lies decides the fault, or leaves it to the bytes. -/
theorem fault_of_decode {e : DecodeError} (h : c.decode a = .error e) :
    (e = .empty a ∧ (c.bytes = [] ∨ c.stop ≤ a)) ∨
      (e = .outOfBounds a ∧ c.bytes ≠ [] ∧ a < c.start) ∨
        (∃ op, e = .unsupportedOpcode a op) ∨ e = .tooLong a ∨ ∃ n, e = .truncated a n := by
  rcases end_or_lt_or_remains c a with hend | ⟨hne, hlt⟩ | ⟨_, _, _, bs, hbs⟩
  · rw [decode_of_end hend] at h
    exact .inl ⟨(Except.error.inj h).symm, hend⟩
  · rw [decode_of_lt_start hne hlt] at h
    exact .inr (.inl ⟨(Except.error.inj h).symm, hne, hlt⟩)
  · rw [hbs.decode_eq] at h
    rcases Insn.fault_of_decodeBytes h with hop | hlong | hcut
    · exact .inr (.inr (.inl hop))
    · exact .inr (.inr (.inr (.inl hlong)))
    · exact .inr (.inr (.inr (.inr ⟨bs.length, hcut⟩)))

theorem decode_eq_empty_iff :
    c.decode a = .error (.empty b) ↔ b = a ∧ (c.bytes = [] ∨ c.stop ≤ a) := by
  constructor
  · intro h
    rcases fault_of_decode h with ⟨he, hend⟩ | ⟨he, _⟩ | ⟨_, he⟩ | he | ⟨_, he⟩
    · exact ⟨DecodeError.empty.inj he, hend⟩
    all_goals cases he
  · intro h
    rcases h with ⟨rfl, hend⟩
    exact decode_of_end hend

theorem decode_eq_outOfBounds_iff :
    c.decode a = .error (.outOfBounds b) ↔ b = a ∧ c.bytes ≠ [] ∧ a < c.start := by
  constructor
  · intro h
    rcases fault_of_decode h with ⟨he, _⟩ | ⟨he, hfront⟩ | ⟨_, he⟩ | he | ⟨_, he⟩
    · cases he
    · exact ⟨DecodeError.outOfBounds.inj he, hfront⟩
    all_goals cases he
  · intro h
    rcases h with ⟨rfl, hne, hlt⟩
    exact decode_of_lt_start hne hlt

/-- Whatever fails, it is the instruction at the address asked for. -/
theorem address_of_decode {e : DecodeError} (h : c.decode a = .error e) : e.address = a := by
  rcases fault_of_decode h with ⟨rfl, _⟩ | ⟨rfl, _⟩ | ⟨_, rfl⟩ | rfl | ⟨_, rfl⟩
  all_goals rfl

theorem decodeInto_snd_eq_some_iff {record : Insn} {e : DecodeError} :
    (c.decodeInto record a).2 = some e ↔ c.decode a = .error e := by
  cases hdecode : c.decode a with
  | ok i => simp [decodeInto, hdecode]
  | error f => simp [decodeInto, hdecode]

/-- Each fault says what is wrong. Behind the code there is nothing to decode, in front of it the
address is out of bounds. In the code the bytes from the address on decide: an opcode without a
shape that lies in the first fifteen of them is refused, and bytes that are a proper front part of
an instruction are cut off by the end of the code or by the limit, whichever comes first. Every
fault has the address asked for, and decoding into a record reports the same faults. -/
theorem decode_fault_iff (c : Code) (a : Address) :
    (∀ b, c.decode a = .error (.empty b) ↔ b = a ∧ (c.bytes = [] ∨ c.stop ≤ a)) ∧
      (∀ b, c.decode a = .error (.outOfBounds b) ↔ b = a ∧ c.bytes ≠ [] ∧ a < c.start) ∧
      (c.bytes ≠ [] → c.start ≤ a → a < c.stop → ∃ bs, c.Remains a bs) ∧
      (∀ bs, c.Remains a bs →
        (∀ b n, c.decode a = .error (.truncated b n) ↔
          b = a ∧ n = bs.length ∧ bs.length < 15 ∧ Encoding.IsCut bs) ∧
        (∀ b, c.decode a = .error (.tooLong b) ↔
          b = a ∧ 15 ≤ bs.length ∧ Encoding.IsCut (bs.take 15)) ∧
        ∀ b op, c.decode a = .error (.unsupportedOpcode b op) ↔
          b = a ∧ op.shape? = none ∧
            ∃ o : Encoding.Opening, o.opcode = op ∧ o.Begins (bs.take 15)) ∧
      (∀ e, c.decode a = .error e → e.address = a) ∧
      ∀ record e, (c.decodeInto record a).2 = some e ↔ c.decode a = .error e := by
  refine ⟨fun _ => decode_eq_empty_iff, fun _ => decode_eq_outOfBounds_iff, ?_, ?_,
    fun _ => address_of_decode, fun _ _ => decodeInto_snd_eq_some_iff⟩
  · intro hne hge hlt
    rcases end_or_lt_or_remains c a with (hnil | hstop) | ⟨_, hlow⟩ | ⟨_, _, _, hbs⟩
    · exact absurd hnil hne
    · exact absurd hlt (Nat.not_lt_of_le hstop)
    · exact absurd hlow (Nat.not_lt_of_le hge)
    · exact hbs
  · intro bs hbs
    rw [hbs.decode_eq]
    exact ⟨fun _ _ => Insn.decodeBytes_eq_truncated_iff, fun _ => Insn.decodeBytes_eq_tooLong_iff,
      fun _ _ => Insn.decodeBytes_eq_unsupportedOpcode_iff⟩

/-- Fourteen prefixes, the escape and a byte that makes it no opcode. -/
def prefixRun : Code :=
  ⟨.ofNat 0x401000, List.replicate 14 0x66 ++ [0x0f, 0xff], by decide⟩

/-- The limit cuts the opcode behind the escape. One byte on, all of the opcode is in sight. -/
theorem decode_fault_iff_prefixRun :
    (∃ bs, prefixRun.Remains (.ofNat 0x401000) bs) ∧
      prefixRun.decode (.ofNat 0x401000) = .error (.tooLong (.ofNat 0x401000)) ∧
      prefixRun.decode (.ofNat 0x401001) =
        .error (.unsupportedOpcode (.ofNat 0x401001) (.ofEscaped 0xff)) := by
  have hfirst := decode_fault_iff prefixRun (.ofNat 0x401000)
  have hsecond := decode_fault_iff prefixRun (.ofNat 0x401001)
  have hwhole : prefixRun.Remains (.ofNat 0x401000) prefixRun.bytes :=
    remains_iff.2 ⟨by decide, by decide⟩
  have htail : prefixRun.Remains (.ofNat 0x401001) (prefixRun.bytes.drop 1) :=
    remains_iff.2 ⟨by decide, by decide⟩
  have hlegacy (n : Nat) : ∀ b ∈ List.replicate n (0x66 : UInt8), Prefix.isByte b = true := by
    intro b hb
    rw [List.eq_of_mem_replicate hb]
    decide
  refine ⟨hfirst.2.2.1 (by decide) (by decide) (by decide), ?_, ?_⟩
  · -- The first fifteen bytes go on as a system call.
    have hwf : Encoding.WellFormed
        ⟨List.replicate 14 0x66, none, .ofEscaped 0x05, none, none, [], []⟩ ⟨false, .empty⟩ :=
      ⟨hlegacy 14, by simp, by decide, by decide, rfl, rfl, rfl, rfl⟩
    have hcut : Encoding.IsCut (prefixRun.bytes.take 15) :=
      ⟨_, _, Encoding.valid_iff_wellFormed.2 hwf, ⟨[0x05], by decide⟩, by decide⟩
    exact ((hfirst.2.2.2.1 _ hwhole).2.1 _).2 ⟨rfl, by decide, hcut⟩
  · have hbegins : Encoding.Opening.Begins ⟨List.replicate 13 0x66, none, .ofEscaped 0xff⟩
        ((prefixRun.bytes.drop 1).take 15) :=
      Encoding.Opening.begins_iff.2 ⟨⟨hlegacy 13, by simp, .inr ⟨0xff, rfl⟩⟩, [], by decide⟩
    exact ((hsecond.2.2.2.1 _ htail).2.2 _ _).2 ⟨rfl, by decide, _, rfl, hbegins⟩

end Code

end CodeSurvey
