import CodeSurvey.Proofs.Image.Parts
import CodeSurvey.Proofs.Sweep.Resumption
import CodeSurvey.Proofs.Sweep.Starts

/-!
# Hits of one sweep

The hits of an image are those of one linear sweep through each executable segment, although every
search starts again behind its last hit.

* `Survey.calls_leas_eq_sweep` : calls and `lea`s, under both policies;
* `Code.IsStartBehindPadding c o a` : a candidate of a sweep that does not stop;
* `Survey.paddingStarts_eq_sweep` : function starts behind filler, where the sweep does not stop.
-/

namespace CodeSurvey

/-! ## What is searched for -/

theorem Insn.isCallTo_iff {target : Option Address} {i : Insn} :
    i.isCallTo target = true ↔
      (i.kind = .nearCall ∨ i.kind = .indirectCall) ∧ ∀ a ∈ target, i.callTarget? = some a := by
  have hcall : i.kind.isCall = true ↔ i.kind = .nearCall ∨ i.kind = .indirectCall := by
    cases i.kind <;> simp [InsnKind.isCall]
  rw [isCallTo, Bool.and_eq_true, hcall]
  cases target with
  | none => simp
  | some a => simp

theorem Insn.isLeaWith_iff {displacement : Int} {i : Insn} :
    i.isLeaWith displacement = true ↔
      i.kind = .lea ∧ (i.mode? = some .indirectDisp8 ∨ i.mode? = some .indirectDisp32) ∧
        i.displacement = displacement := by
  have hmode : i.mode?.any AddressingMode.hasDisplacement = true ↔
      i.mode? = some .indirectDisp8 ∨ i.mode? = some .indirectDisp32 := by
    cases i.mode? with
    | none => simp
    | some mode => cases mode <;> simp [AddressingMode.hasDisplacement]
  rw [isLeaWith, Bool.and_eq_true, Bool.and_eq_true, hmode, beq_iff_eq, beq_iff_eq, and_assoc]

namespace Survey

/-! ## Calls and address loads -/

/-- The wanted instructions of one linear sweep through the code of each part, as hits. -/
def sweptHits (s : Survey) (p : Resync) (kind : HitKind) (wanted : Insn → Prop)
    [DecidablePred wanted] : List Hit :=
  s.parts.flatMap fun part =>
    ((part.2.linearInstructions p).filter fun i => wanted i).map fun i =>
      ⟨kind, i.start, i.length, part.1.index, i.callTarget?⟩

theorem isStablySorted_sweptHits {s : Survey} {o : ScanOptions} {q : Query} {kind : HitKind}
    {test : Insn → Bool} {wanted : Insn → Prop} [DecidablePred wanted]
    (htest : ∀ i, test i = true ↔ wanted i)
    (hhits : ∀ segment c, q.hitsIn o segment c =
      ((c.linearInstructions o.resync).filter test).map (Hit.ofInsn kind segment)) :
    Hit.IsStablySorted (s.sweptHits o.resync kind wanted) ((s.withOptions o).hits q) := by
  have hfilter : test = fun i => decide (wanted i) := by
    funext i
    exact Bool.eq_iff_iff.2 ((htest i).trans decide_eq_true_iff.symm)
  have hparts : (s.parts.flatMap fun part => q.hitsIn o part.1.index part.2) =
      s.sweptHits o.resync kind wanted := by
    simp only [hhits, hfilter]
    rfl
  rw [← hparts]
  exact Hit.isStablySorted_sortByAddress _

/-- Calls and `lea`s are those of one sweep through each executable segment, in table order, by
address and otherwise as they come. -/
theorem calls_leas_eq_sweep {m : Image} {data : List UInt8} {s : Survey}
    (h : ofImage m data = .ok s) (o : ScanOptions) :
    s.parts.map Prod.fst = m.executableSegments ∧
      (m.executableSegments.map Segment.index).Pairwise (· < ·) ∧
      (∀ part ∈ s.parts, Image.segmentCode part.1 data = .ok part.2) ∧
      (∀ target : Option Address,
        Hit.IsStablySorted
          (s.sweptHits o.resync .call fun i =>
            (i.kind = .nearCall ∨ i.kind = .indirectCall) ∧
              ∀ a ∈ target, i.callTarget? = some a)
          ((s.withOptions o).hits (.calls target))) ∧
      (∀ displacement : Int,
        Hit.IsStablySorted
          (s.sweptHits o.resync .lea fun i =>
            i.kind = .lea ∧ (i.mode? = some .indirectDisp8 ∨ i.mode? = some .indirectDisp32) ∧
              i.displacement = displacement)
          ((s.withOptions o).hits (.leas displacement))) := by
  rcases parts_of_ofImage h with ⟨hsegments, hcodes⟩
  refine ⟨hsegments, m.pairwise_index_executableSegments, hcodes, ?_, ?_⟩
  · intro target
    exact isStablySorted_sweptHits (fun _ => Insn.isCallTo_iff) (Query.hitsIn_calls o target)
  · intro displacement
    exact isStablySorted_sweptHits (fun _ => Insn.isLeaWith_iff) (Query.hitsIn_leas o displacement)

/-- Two executable segments, the upper one first in the table, and one that is not executable. -/
def sampleImage : Image where
  base := .ofNat 0x400000
  loadBias := 0
  headers := [⟨1, 5, 0, 0x2000, 8, 8⟩, ⟨1, 4, 0, 0, 20, 20⟩, ⟨1, 5, 8, 0x1000, 12, 16⟩]

/-- A call, filler in front of a byte that cannot be decoded, and a return; then an address load, a
call through a slot, filler and a return. -/
def sampleData : List UInt8 :=
  [0xe8, 0x00, 0x00, 0x00, 0x00, 0x90, 0x06, 0xc3,
    0x48, 0x8d, 0x45, 0xf8, 0xff, 0x15, 0xf6, 0x0f, 0x00, 0x00, 0xcc, 0xc3]

theorem calls_leas_eq_sweep_sample :
    ∃ s, ofImage sampleImage sampleData = .ok s ∧ s.parts.length = 2 ∧
      (∀ target : Option Address,
        Hit.IsStablySorted
          (s.sweptHits .stop .call fun i =>
            (i.kind = .nearCall ∨ i.kind = .indirectCall) ∧
              ∀ a ∈ target, i.callTarget? = some a)
          ((s.withOptions { resync := .stop }).hits (.calls target))) ∧
      (∀ displacement : Int,
        Hit.IsStablySorted
          (s.sweptHits .stop .lea fun i =>
            i.kind = .lea ∧ (i.mode? = some .indirectDisp8 ∨ i.mode? = some .indirectDisp32) ∧
              i.displacement = displacement)
          ((s.withOptions { resync := .stop }).hits (.leas displacement))) :=
  ⟨_, rfl, rfl, (@calls_leas_eq_sweep sampleImage sampleData _ rfl { resync := .stop }).2.2.2⟩

end Survey

/-! ## Starts behind filler -/

/-- A candidate of one linear sweep through the whole code, whatever the policy of the options is:
the sweep goes on behind what cannot be decoded. -/
def Code.IsStartBehindPadding (c : Code) (o : ScanOptions) (a : Address) : Prop :=
  c.IsCandidate { o with resync := .byteWise } a

theorem Code.mem_starts_iff_isStartBehindPadding {c : Code} {o : ScanOptions} {a : Address} :
    a ∈ Sweep.starts o.admits false (c.linearSweep .byteWise c.start) ↔
      c.IsStartBehindPadding o a :=
  mem_starts_linearSweep_iff

namespace Survey

/-- Where the sweep does not stop, the starts behind filler in a segment are those of one sweep
through its code, each once and in address order. -/
theorem paddingStarts_eq_sweep {m : Image} {data : List UInt8} {s : Survey}
    (h : ofImage m data = .ok s) {o : ScanOptions} (hgo : o.resync = .byteWise)
    {segment : Segment} (hsegment : segment ∈ m.executableSegments) :
    ∃ c, Image.segmentCode segment data = .ok c ∧
      (((s.withOptions o).hits (.prologues .padding)).filter
        fun k => k.segment = segment.index).Pairwise (fun k l => k.address < l.address) ∧
      ∀ k, (k ∈ (s.withOptions o).hits (.prologues .padding) ∧ k.segment = segment.index) ↔
        ∃ a, c.IsStartBehindPadding o a ∧ k = ⟨.prologue, a, 0, segment.index, none⟩ := by
  rcases parts_of_ofImage h with ⟨hsegments, hcodes⟩
  rw [← hsegments] at hsegment
  rcases List.mem_map.1 hsegment with ⟨⟨segment, c⟩, hpart, rfl⟩
  have hhits := Query.hitsIn_padding hgo segment.index c
  have hstarts : ((Query.prologues .padding).hitsIn o segment.index c).Pairwise
      fun k l => k.address < l.address := by
    rw [hhits, List.pairwise_map]
    exact c.starts_pairwise .byteWise o.admits c.start
  -- Within a segment the starts are in order, so sorting all hits leaves them as they are.
  have hfilter := hits_filter_segment h o (.prologues .padding) hpart
    (hstarts.imp Nat.le_of_lt)
  refine ⟨c, hcodes _ hpart, ?_, ?_⟩
  · rw [hfilter]
    exact hstarts
  · intro k
    calc
      k ∈ (s.withOptions o).hits (.prologues .padding) ∧ k.segment = segment.index ↔
          k ∈ ((s.withOptions o).hits (.prologues .padding)).filter
            fun k => k.segment = segment.index := by
        rw [List.mem_filter, decide_eq_true_iff]
      _ ↔ k ∈ (Sweep.starts o.admits false (c.linearSweep .byteWise c.start)).map
            (Hit.ofStart segment.index) := by
        rw [hfilter, hhits]
      _ ↔ ∃ a, c.IsStartBehindPadding o a ∧ k = ⟨.prologue, a, 0, segment.index, none⟩ := by
        rw [List.mem_map]
        refine exists_congr ?_
        intro a
        exact and_congr Code.mem_starts_iff_isStartBehindPadding eq_comm

theorem paddingStarts_eq_sweep_sample :
    ∃ s segment, ofImage sampleImage sampleData = .ok s ∧
      segment ∈ sampleImage.executableSegments ∧ segment.index = 2 ∧
      ∃ c, Image.segmentCode segment sampleData = .ok c ∧
        (((s.withOptions { resync := .byteWise }).hits (.prologues .padding)).filter
          fun k => k.segment = segment.index).Pairwise (fun k l => k.address < l.address) ∧
        ∀ k, (k ∈ (s.withOptions { resync := .byteWise }).hits (.prologues .padding) ∧
            k.segment = segment.index) ↔
          ∃ a, c.IsStartBehindPadding { resync := .byteWise } a ∧
            k = ⟨.prologue, a, 0, segment.index, none⟩ :=
  ⟨_, ⟨2, ⟨.ofNat 0x401000, .ofNat 0x401010⟩, ⟨true, false, true⟩, 8, 12⟩, rfl, by decide, rfl,
    @paddingStarts_eq_sweep sampleImage sampleData _ rfl _ rfl _ (by decide)⟩

end Survey

end CodeSurvey
