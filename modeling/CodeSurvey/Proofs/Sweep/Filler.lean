import CodeSurvey.Proofs.Decode.Kinds
import CodeSurvey.Proofs.Image.Provenance
import CodeSurvey.Proofs.Sweep.Starts
import CodeSurvey.Proofs.Sweep.Stop

/-!
# Filler

What the search for function starts takes for filler, in terms of the bytes. Two instructions share
their opcode with a no-op: the exchange of two registers under REX.B, which is told apart, and the
pause under a repeat prefix, which is not.

* `Encoding.IsFiller e` : the no-ops and the breakpoint;
* `Encoding.IsPause e` : the pause;
* `Insn.isPadding_ofEncoding_iff` : both of them count as padding, and nothing else does;
* `Code.FollowsPadding.exists_decode` : what comes right in front of a start behind filler;
* `Code.padding_of_decode` : so it is for everything that is decoded, and for starts that are found.
-/

namespace CodeSurvey

namespace Encoding

/-- The no-ops that do nothing else under their prefixes, and the breakpoint. -/
inductive IsFiller (e : Encoding) : Prop where
  | int3 (op : e.opcode = .ofByte 0xcc)
  | nopRm (op : e.opcode = .ofEscaped 0x1f)
  | hint (op : e.opcode = .ofEscaped 0x1e) (rep : 0xf3 ∉ e.legacy)
  | nop (op : e.opcode = .ofByte 0x90) (rep : 0xf3 ∉ e.legacy) (rexB : rexB e.rex = false)

/-- The no-op under a repeat prefix: a hint to the processor in a loop that waits. -/
structure IsPause (e : Encoding) : Prop where
  opcode : e.opcode = .ofByte 0x90
  rep : 0xf3 ∈ e.legacy
  rexB : rexB e.rex = false

end Encoding

/-- A pause counts as padding too: `90` is not asked for a repeat prefix, as the hint no-ops are. -/
theorem Insn.isPadding_ofEncoding_iff {a : Address} {e : Encoding} :
    (ofEncoding a e).kind.isPadding = true ↔ e.IsFiller ∨ e.IsPause := by
  have hrep : (ofEncoding a e).prefixes.rep = true ↔ 0xf3 ∈ e.legacy := e.prefixes_collects.rep
  rw [InsnKind.isPadding_iff, kind_eq_nop_iff, kind_eq_int3_iff, ← Bool.not_eq_true, hrep]
  constructor
  · rintro ((⟨op, hno⟩ | op | ⟨op, hrex⟩) | op)
    · exact .inl (.hint op hno)
    · exact .inl (.nopRm op)
    · by_cases hmem : 0xf3 ∈ e.legacy
      · exact .inr ⟨op, hmem, hrex⟩
      · exact .inl (.nop op hmem hrex)
    · exact .inl (.int3 op)
  · rintro (hfiller | hpause)
    · cases hfiller with
      | int3 op => exact .inr op
      | nopRm op => exact .inl (.inr (.inl op))
      | hint op hno => exact .inl (.inl ⟨op, hno⟩)
      | nop op _ hrex => exact .inl (.inr (.inr ⟨op, hrex⟩))
    · exact .inl (.inr (.inr ⟨hpause.opcode, hpause.rexB⟩))

namespace Code

variable {c : Code} {a : Address} {i : Insn}

/-- A start behind filler is where an instruction ends that is filler. -/
theorem FollowsPadding.exists_decode {p : Resync} (h : c.FollowsPadding p a) :
    ∃ i, c.decode i.start = .ok i ∧ i.stop = a ∧ i.kind.isPadding = true := by
  rcases h with ⟨pre, i, step, post, hsweep, hkind, haddress, _⟩
  have hmem : i ∈ c.linearInstructions p := by
    refine List.mem_filterMap.2 ⟨.decoded i, ?_, rfl⟩
    rw [hsweep]
    simp
  -- The next step of the sweep is at the end of the instruction.
  have hnext := (linearSweep_eq_cons (linearSweep_behind_decoded hsweep).symm).1
  exact ⟨i, decode_of_mem_linearInstructions hmem, hnext.symm.trans haddress,
    InsnKind.isPadding_iff.2 hkind⟩

theorem exists_isPadding_iff_of_decode (h : c.decode a = .ok i) :
    ∃ (e : Encoding) (shape : Shape), e.Valid shape ∧ i.Records a e ∧ c.Holds a e.toBytes ∧
      (i.kind.isPadding = true ↔ e.IsFiller ∨ e.IsPause) := by
  rcases exists_ofEncoding_of_decode h with ⟨e, shape, rfl, hvalid, hrecords, hholds⟩
  exact ⟨e, shape, hvalid, hrecords, hholds, Insn.isPadding_ofEncoding_iff⟩

/-- Padding is filler or a pause. Every start behind padding that is found comes right behind one of
them. -/
theorem padding_of_decode (c : Code) :
    (∀ a i, c.decode a = .ok i →
      ∃ (e : Encoding) (shape : Shape), e.Valid shape ∧ i.Records a e ∧ c.Holds a e.toBytes ∧
        (i.kind.isPadding = true ↔ e.IsFiller ∨ e.IsPause)) ∧
      ∀ o a, c.findPrologue? o .padding = some a →
        ∃ (b : Address) (i : Insn) (e : Encoding) (shape : Shape), c.decode b = .ok i ∧
          e.Valid shape ∧ i.Records b e ∧ c.Holds b e.toBytes ∧ i.stop = a ∧
            (e.IsFiller ∨ e.IsPause) := by
  refine ⟨fun a i h => exists_isPadding_iff_of_decode h, ?_⟩
  intro o a h
  rcases (findPrologue?_padding_eq_some_iff.1 h).1.2.exists_decode with ⟨i, hdecode, hstop, hpad⟩
  rcases exists_isPadding_iff_of_decode hdecode with ⟨e, shape, hvalid, hrecords, hholds, hiff⟩
  exact ⟨i.start, i, e, shape, hdecode, hvalid, hrecords, hholds, hstop, hiff.1 hpad⟩

/-- A long no-op in front of an instruction that is none. -/
def longNop : Code :=
  ⟨.ofNat 0x401000, [0x66, 0x0f, 0x1f, 0x00, 0x55], by decide⟩

theorem padding_of_decode_longNop :
    (∃ i, longNop.decode (.ofNat 0x401000) = .ok i ∧ i.kind.isPadding = true ∧
      ∃ (e : Encoding) (shape : Shape), e.Valid shape ∧ i.Records (.ofNat 0x401000) e ∧
        (e.IsFiller ∨ e.IsPause)) ∧
      longNop.findPrologue? {} .padding = some (.ofNat 0x401004) ∧
      ∃ (b : Address) (i : Insn) (e : Encoding), longNop.decode b = .ok i ∧ i.Records b e ∧
        i.stop = .ofNat 0x401004 ∧ (e.IsFiller ∨ e.IsPause) := by
  rcases padding_of_decode longNop with ⟨hdecoded, hstarts⟩
  have hfound : longNop.findPrologue? {} .padding = some (.ofNat 0x401004) := by decide
  refine ⟨⟨_, rfl, by decide, ?_⟩, hfound, ?_⟩
  · rcases hdecoded (.ofNat 0x401000) _ rfl with ⟨e, shape, hvalid, hrecords, _, hiff⟩
    exact ⟨e, shape, hvalid, hrecords, hiff.1 (by decide)⟩
  · rcases hstarts {} _ hfound with ⟨b, i, e, _, hdecode, _, hrecords, _, hstop, hfiller⟩
    exact ⟨b, i, e, hdecode, hrecords, hstop, hfiller⟩

def pause : Encoding where
  legacy := [0xf3]
  rex := none
  opcode := .ofByte 0x90
  modrm := none
  sib := none
  displacement := []
  operand := []

/-- A pause in front of a return. -/
def pausedCode : Code :=
  ⟨.ofNat 0x401000, pause.toBytes ++ [0xc3], by decide⟩

/-- The pause is no filler, and what comes behind it is still found as a function start. -/
theorem findPrologue?_pausedCode :
    pausedCode.decode (.ofNat 0x401000) = .ok (.ofEncoding (.ofNat 0x401000) pause) ∧
      ¬pause.IsFiller ∧ (Insn.ofEncoding (.ofNat 0x401000) pause).kind.isPadding = true ∧
      pausedCode.findPrologue? {} .padding = some (.ofNat 0x401002) := by
  have hfiller : ¬pause.IsFiller := by
    intro h
    cases h with
    | int3 op => exact absurd op (by decide)
    | nopRm op => exact absurd op (by decide)
    | hint op _ => exact absurd op (by decide)
    | nop _ hrep _ => exact absurd hrep (by decide)
  exact ⟨rfl, hfiller, by decide, by decide⟩

end Code

end CodeSurvey
