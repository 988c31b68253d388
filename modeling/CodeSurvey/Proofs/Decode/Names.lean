import CodeSurvey.Insn.Listing
import CodeSurvey.Proofs.Decode.OpcodeNames

/-!
# Names by kind

The name of an instruction is told by its opcode and the ModRM field `reg`, its kind also by its
prefixes. Row by row the two tables agree but for two opcodes, where a prefix makes another
instruction of a no-op and the name stays what it was.

* `Encoding.IsExchange`, `IsShadowStackOp` : the two instructions, by their bytes;
* `Insn.HasKind.namedLike`, `Insn.hasKind_of_namedLike` : from one table to the other, row by row;
* `Insn.mnemonic_mem_names_iff` : what the names of a kind say about the kind;
* `Insn.NamedByKind i e` : the same for each name;
* `Code.names_of_decode` : so it is for everything that is decoded.
-/

namespace CodeSurvey

namespace Encoding

/-- Under REX.B the byte of the no-op exchanges two registers. -/
structure IsExchange (e : Encoding) : Prop where
  opcode : e.opcode = .ofByte 0x90
  rexB : rexB e.rex = true

/-- Under a repeat prefix a hint no-op that is no landing pad works on the shadow stack. -/
structure IsShadowStackOp (e : Encoding) : Prop where
  opcode : e.opcode = .ofEscaped 0x1e
  rep : 0xf3 ∈ e.legacy
  modrm : ∀ m ∈ e.modrm, m.raw ≠ 0xfa ∧ m.raw ≠ 0xfb

end Encoding

namespace Insn

variable {i : Insn} {k : InsnKind} {a : Address} {e : Encoding} {shape : Shape}

/-- The field `reg`, zero without a ModRM byte. -/
theorem getD_reg?_lt (i : Insn) : i.reg?.getD 0 < 8 := by
  cases hm : i.modrm with
  | none => simp [reg?, hm]
  | some m =>
    have hreg : i.reg?.getD 0 = m.raw.toNat / 8 % 8 := by rw [reg?, hm]; rfl
    rw [hreg]
    exact Nat.mod_lt _ (by decide)

theorem reg?_eq_some_iff {n : Nat} (hn : n ≠ 0) : i.reg? = some n ↔ i.reg?.getD 0 = n := by
  cases i.reg? with
  | none => simp [hn.symm]
  | some m => simp

/-- What a kind asks of an instruction is enough for a name of the kind. -/
theorem HasKind.namedLike (h : i.HasKind k) (hk : k ≠ .landingPad) :
    i.opcode.NamedLike (i.reg?.getD 0) k := by
  cases h with
  | nearCall op => exact .nearCall op
  | jump op => exact .jump op
  | conditionalJump op => exact .conditionalJump op
  | lea op => exact .lea op
  | hint op _ => exact .hint op
  | landingPad _ _ _ _ => exact absurd rfl hk
  | nopRm op => exact .nopRm op
  | nop op _ => exact .nop op
  | int3 op => exact .int3 op
  | ret op => exact .ret op
  | indirectCall op reg =>
    exact .indirectCall op
      (reg.imp (reg?_eq_some_iff (by decide)).1 (reg?_eq_some_iff (by decide)).1)
  | indirectJump op reg =>
    exact .indirectJump op
      (reg.imp (reg?_eq_some_iff (by decide)).1 (reg?_eq_some_iff (by decide)).1)

/-- The other way, a prefix can make something else of two of the no-ops. -/
theorem hasKind_of_namedLike (h : i.opcode.NamedLike (i.reg?.getD 0) k) :
    i.HasKind k ∨ k = .nop ∧
      (i.opcode = .ofByte 0x90 ∧ i.rexB = true ∨
        i.opcode = .ofEscaped 0x1e ∧ i.prefixes.rep = true) := by
  cases h with
  | nearCall op => exact .inl (.nearCall op)
  | jump op => exact .inl (.jump op)
  | conditionalJump op => exact .inl (.conditionalJump op)
  | lea op => exact .inl (.lea op)
  | hint op =>
    cases hrep : i.prefixes.rep with
    | false => exact .inl (.hint op hrep)
    | true => exact .inr ⟨rfl, .inr ⟨op, rfl⟩⟩
  | nopRm op => exact .inl (.nopRm op)
  | nop op =>
    cases hrex : i.rexB with
    | false => exact .inl (.nop op hrex)
    | true => exact .inr ⟨rfl, .inl ⟨op, rfl⟩⟩
  | int3 op => exact .inl (.int3 op)
  | ret op => exact .inl (.ret op)
  | indirectCall op field =>
    exact .inl (.indirectCall op
      (field.imp (reg?_eq_some_iff (by decide)).2 (reg?_eq_some_iff (by decide)).2))
  | indirectJump op field =>
    exact .inl (.indirectJump op
      (field.imp (reg?_eq_some_iff (by decide)).2 (reg?_eq_some_iff (by decide)).2))

theorem mnemonic_of_landingPad (h : i.kind = .landingPad) :
    i.mnemonic ∈ InsnKind.landingPad.names := by
  rw [mnemonic, if_pos h]
  split
  · exact List.mem_cons_of_mem _ List.mem_cons_self
  · exact List.mem_cons_self

theorem mnemonic_of_not_landingPad (h : i.kind ≠ .landingPad) :
    i.mnemonic = i.opcode.mnemonic (i.reg?.getD 0) :=
  if_neg h

theorem kind_of_isExchange (h : e.IsExchange) : (ofEncoding a e).kind = .other := by
  have hrex : (ofEncoding a e).rexB = true := h.rexB
  refine (kind_of_opcode (i := ofEncoding a e) h.opcode).trans ?_
  show (if (ofEncoding a e).rexB then InsnKind.other else .nop) = .other
  rw [hrex, if_pos rfl]

theorem kind_of_isShadowStackOp (h : e.IsShadowStackOp) : (ofEncoding a e).kind = .other := by
  have hrep : (ofEncoding a e).prefixes.rep = true := e.prefixes_collects.rep.2 h.rep
  have hpad : e.modrm.any (fun m => m.raw == 0xfa || m.raw == 0xfb) = false := by
    refine Bool.eq_false_iff.2 fun hany => ?_
    rcases (Option.any_eq_true _ _).1 hany with ⟨m, hm, hraw⟩
    have hnot := h.modrm m hm
    simp [hnot] at hraw
  have hhint : (ofEncoding a e).hintKind = .other := by
    show (if !(ofEncoding a e).prefixes.rep then InsnKind.nop
      else if e.modrm.any (fun m => m.raw == 0xfa || m.raw == 0xfb) then .landingPad
      else .other) = .other
    rw [hrep, hpad]
    rfl
  exact (kind_of_opcode (i := ofEncoding a e) h.opcode).trans hhint

/-- The two no-ops that a prefix makes something else of, by their bytes. -/
theorem isExchange_or_isShadowStackOp (hkind : (ofEncoding a e).kind ≠ .landingPad)
    (h : (ofEncoding a e).opcode = .ofByte 0x90 ∧ (ofEncoding a e).rexB = true ∨
      (ofEncoding a e).opcode = .ofEscaped 0x1e ∧ (ofEncoding a e).prefixes.rep = true) :
    e.IsExchange ∨ e.IsShadowStackOp := by
  rcases h with ⟨op, hrex⟩ | ⟨op, hrep⟩
  · exact .inl ⟨op, hrex⟩
  · refine .inr ⟨op, e.prefixes_collects.rep.1 hrep, ?_⟩
    intro m hm
    have hnone : ¬(m.raw = 0xfa ∨ m.raw = 0xfb) := fun hraw =>
      hkind (kind_eq_landingPad_iff.2 ⟨op, hrep, m, hm, hraw⟩)
    exact not_or.1 hnone

/-- Both keep the name of the no-op. -/
theorem mnemonic_of_isExchange_or_isShadowStackOp (h : e.IsExchange ∨ e.IsShadowStackOp) :
    (ofEncoding a e).mnemonic = "nop" := by
  have hopcode : e.opcode = .ofByte 0x90 ∨ e.opcode = .ofEscaped 0x1e :=
    h.imp Encoding.IsExchange.opcode Encoding.IsShadowStackOp.opcode
  have hother : (ofEncoding a e).kind = .other := h.elim kind_of_isExchange kind_of_isShadowStackOp
  have hkind : (ofEncoding a e).kind ≠ .landingPad := by
    rw [hother]
    decide
  have hreg := (ofEncoding a e).getD_reg?_lt
  rw [mnemonic_of_not_landingPad hkind]
  refine List.mem_singleton.1 (Opcode.NamedLike.mnemonic_mem_names (k := .nop) ?_ hreg)
  exact hopcode.elim .nop .hint

/-- The name of an instruction goes with its kind, and the name of the no-op with two more. -/
theorem mnemonic_mem_names_iff (hvalid : e.Valid shape) (hk : k ≠ .other) :
    (ofEncoding a e).mnemonic ∈ k.names ↔
      ((ofEncoding a e).kind = k ∨ (ofEncoding a e).kind.isCall = true ∧ k.isCall = true) ∨
        k = .nop ∧ (e.IsExchange ∨ e.IsShadowStackOp) := by
  rw [← InsnKind.names_eq_iff]
  have hreg := (ofEncoding a e).getD_reg?_lt
  have hop : (ofEncoding a e).opcode.IsEncodable := hvalid.opcode
  -- A landing pad is not named by its opcode, so the table is asked about the others only.
  constructor
  · intro h
    by_cases hpad : (ofEncoding a e).kind = .landingPad
    · refine .inl ?_
      rw [hpad]
      exact InsnKind.names_eq_of_mem h (mnemonic_of_landingPad hpad)
    · rw [mnemonic_of_not_landingPad hpad, Opcode.mnemonic_mem_names_iff hop hreg] at h
      rcases h with ⟨k', hnames, hnamed⟩
      rcases hasKind_of_namedLike hnamed with hkind | ⟨rfl, hprefixed⟩
      · refine .inl ?_
        rw [hkind.kind_eq, hnames]
      · -- A no-op is no call, so it shares its name with no other kind.
        have hnop := (InsnKind.names_eq_iff.1 hnames).resolve_right fun hcall => nomatch hcall.1
        exact .inr ⟨hnop.symm, isExchange_or_isShadowStackOp hpad hprefixed⟩
  · rintro (hnames | ⟨rfl, hprefixed⟩)
    · by_cases hpad : (ofEncoding a e).kind = .landingPad
      · rw [← hnames, hpad]
        exact mnemonic_of_landingPad hpad
      · have hother : (ofEncoding a e).kind ≠ .other := by
          intro hother
          rw [hother] at hnames
          have hkind := (InsnKind.names_eq_iff.1 hnames).resolve_right fun hcall => nomatch hcall.1
          exact hk hkind.symm
        rw [mnemonic_of_not_landingPad hpad, ← hnames]
        exact (((hasKind_iff hother).2 rfl).namedLike hpad).mnemonic_mem_names hreg
    · exact List.mem_singleton.2 (mnemonic_of_isExchange_or_isShadowStackOp hprefixed)

/-- The name and the kind of an instruction agree, as far as they do: a no-op that a prefix makes
something else of keeps its name. Of the groups of opcodes that the field `reg` tells apart, some
members have no name. -/
structure NamedByKind (i : Insn) (e : Encoding) : Prop where
  call : i.mnemonic = "call" ∨ i.mnemonic = "call far" ↔
    i.kind = .nearCall ∨ i.kind = .indirectCall
  jump : i.mnemonic = "jmp" ∨ i.mnemonic = "jmp far" ↔ i.kind = .jump
  conditionalJump : i.mnemonic = "jcc" ↔ i.kind = .conditionalJump
  lea : i.mnemonic = "lea" ↔ i.kind = .lea
  ret : i.mnemonic = "ret" ↔ i.kind = .ret
  int3 : i.mnemonic = "int3" ↔ i.kind = .int3
  landingPad : i.mnemonic = "endbr64" ∨ i.mnemonic = "endbr32" ↔ i.kind = .landingPad
  nop : i.mnemonic = "nop" ↔
    i.kind = .nop ∨ i.kind = .other ∧ (e.IsExchange ∨ e.IsShadowStackOp)
  unnamed : i.mnemonic = "(bad)" ↔
    (e.opcode = .ofByte 0xfe ∧ ∃ m ∈ e.modrm, 2 ≤ m.reg) ∨
      (e.opcode = .ofByte 0xff ∧ ∃ m ∈ e.modrm, m.reg = 7)

/-- Of most kinds, the names are theirs alone. -/
theorem mnemonic_mem_names_iff_kind (hvalid : e.Valid shape)
    (hk : k ∉ [InsnKind.other, .nop, .nearCall, .indirectCall]) :
    (ofEncoding a e).mnemonic ∈ k.names ↔ (ofEncoding a e).kind = k := by
  have hother : k ≠ .other := fun h => hk (h ▸ List.mem_cons_self)
  have hnop : k ≠ .nop := fun h => hk (h ▸ List.mem_cons_of_mem _ List.mem_cons_self)
  have hcall : k.isCall = false := by
    cases k <;> simp [InsnKind.isCall] at hk ⊢
  rw [mnemonic_mem_names_iff hvalid hother]
  simp [hnop, hcall]

theorem mnemonic_eq_call_iff (hvalid : e.Valid shape) :
    (ofEncoding a e).mnemonic = "call" ∨ (ofEncoding a e).mnemonic = "call far" ↔
      (ofEncoding a e).kind = .nearCall ∨ (ofEncoding a e).kind = .indirectCall := by
  have hnames := mnemonic_mem_names_iff (a := a) (k := .nearCall) hvalid (by decide)
  have hmem : (ofEncoding a e).mnemonic ∈ InsnKind.nearCall.names ↔
      (ofEncoding a e).mnemonic = "call" ∨ (ofEncoding a e).mnemonic = "call far" := by
    simp [InsnKind.names]
  rw [← hmem, hnames]
  cases (ofEncoding a e).kind <;> simp [InsnKind.isCall]

theorem mnemonic_eq_nop_iff (hvalid : e.Valid shape) :
    (ofEncoding a e).mnemonic = "nop" ↔
      (ofEncoding a e).kind = .nop ∨
        (ofEncoding a e).kind = .other ∧ (e.IsExchange ∨ e.IsShadowStackOp) := by
  have hnames := mnemonic_mem_names_iff (a := a) (k := .nop) hvalid (by decide)
  have hother (h : e.IsExchange ∨ e.IsShadowStackOp) : (ofEncoding a e).kind = .other :=
    h.elim kind_of_isExchange kind_of_isShadowStackOp
  refine List.mem_singleton.symm.trans (hnames.trans ?_)
  constructor
  · rintro ((hkind | ⟨_, hcall⟩) | ⟨_, hprefixed⟩)
    · exact .inl hkind
    · cases hcall
    · exact .inr ⟨hother hprefixed, hprefixed⟩
  · rintro (hkind | ⟨_, hprefixed⟩)
    · exact .inl (.inl hkind)
    · exact .inr ⟨rfl, hprefixed⟩

/-- Without a ModRM byte the field `reg` is zero, which has a name in every row. -/
theorem getD_reg?_iff {P : Nat → Prop} (hzero : ¬P 0) :
    P (i.reg?.getD 0) ↔ ∃ m ∈ i.modrm, P m.reg := by
  rw [reg?]
  cases i.modrm with
  | none => simpa using hzero
  | some m => simp

theorem mnemonic_eq_unnamed_iff (hvalid : e.Valid shape) :
    (ofEncoding a e).mnemonic = "(bad)" ↔
      (e.opcode = .ofByte 0xfe ∧ ∃ m ∈ e.modrm, 2 ≤ m.reg) ∨
        (e.opcode = .ofByte 0xff ∧ ∃ m ∈ e.modrm, m.reg = 7) := by
  have hreg := (ofEncoding a e).getD_reg?_lt
  have hfe := getD_reg?_iff (i := ofEncoding a e) (P := (2 ≤ ·)) (by decide)
  have hff := getD_reg?_iff (i := ofEncoding a e) (P := (· = 7)) (by decide)
  have hopcode := Opcode.mnemonic_eq_unnamed_iff hvalid.opcode hvalid.shape_eq hreg
  rw [hfe, hff] at hopcode
  by_cases hpad : (ofEncoding a e).kind = .landingPad
  · -- A landing pad has a name, and is none of the two opcodes.
    have hop : e.opcode = .ofEscaped 0x1e := (kind_eq_landingPad_iff.1 hpad).1
    refine iff_of_false ?_ ?_
    · intro hname
      have hmem := mnemonic_of_landingPad hpad
      rw [hname] at hmem
      exact absurd hmem (by decide)
    · rw [hop]
      rintro (⟨hbyte, _⟩ | ⟨hbyte, _⟩)
      · exact absurd hbyte (by decide)
      · exact absurd hbyte (by decide)
  · rw [mnemonic_of_not_landingPad hpad]
    exact hopcode

theorem namedByKind_ofEncoding (hvalid : e.Valid shape) : (ofEncoding a e).NamedByKind e where
  call := mnemonic_eq_call_iff hvalid
  jump := by
    have hnames := mnemonic_mem_names_iff_kind (a := a) (k := .jump) hvalid (by decide)
    simpa [InsnKind.names] using hnames
  conditionalJump :=
    List.mem_singleton.symm.trans
      (mnemonic_mem_names_iff_kind (k := .conditionalJump) hvalid (by decide))
  lea := List.mem_singleton.symm.trans (mnemonic_mem_names_iff_kind (k := .lea) hvalid (by decide))
  ret := List.mem_singleton.symm.trans (mnemonic_mem_names_iff_kind (k := .ret) hvalid (by decide))
  int3 :=
    List.mem_singleton.symm.trans (mnemonic_mem_names_iff_kind (k := .int3) hvalid (by decide))
  landingPad := by
    have hnames := mnemonic_mem_names_iff_kind (a := a) (k := .landingPad) hvalid (by decide)
    simpa [InsnKind.names] using hnames
  nop := mnemonic_eq_nop_iff hvalid
  unnamed := mnemonic_eq_unnamed_iff hvalid

end Insn

namespace Code

variable {c : Code} {a : Address} {i : Insn}

/-- Everything that is decoded has a name that says its kind as far as names do. -/
theorem names_of_decode (h : c.decode a = .ok i) :
    ∃ (e : Encoding) (shape : Shape), e.Valid shape ∧ i.Records a e ∧ c.Holds a e.toBytes ∧
      i.NamedByKind e := by
  rcases exists_ofEncoding_of_decode h with ⟨e, shape, rfl, hvalid, hrecords, hholds⟩
  exact ⟨e, shape, hvalid, hrecords, hholds, Insn.namedByKind_ofEncoding hvalid⟩

/-- A far call through a slot, behind a prefix. -/
def farCallCode : Code :=
  ⟨.ofNat 0x401000, [0x2e, 0xff, 0x1d, 0x00, 0x01, 0x00, 0x00], by decide⟩

theorem names_of_decode_farCall :
    ∃ i, farCallCode.decode (.ofNat 0x401000) = .ok i ∧ i.mnemonic = "call far" ∧
      (i.kind = .nearCall ∨ i.kind = .indirectCall) := by
  refine ⟨_, rfl, by decide, ?_⟩
  rcases names_of_decode (c := farCallCode) (a := .ofNat 0x401000) rfl with ⟨_, _, _, _, _, hnamed⟩
  exact hnamed.call.1 (.inr (by decide))

/-- The exchange of two registers, and the no-op behind it. -/
def exchangeCode : Code :=
  ⟨.ofNat 0x401000, [0x49, 0x90, 0x90], by decide⟩

/-- Both are named as the no-op, which only the second is. -/
theorem mnemonic_exchangeCode :
    ∃ i j, exchangeCode.decode (.ofNat 0x401000) = .ok i ∧ i.mnemonic = "nop" ∧ i.kind ≠ .nop ∧
      exchangeCode.decode i.stop = .ok j ∧ j.mnemonic = "nop" ∧ j.kind = .nop :=
  ⟨_, _, rfl, by decide, by decide, rfl, by decide, by decide⟩

end Code

end CodeSurvey
