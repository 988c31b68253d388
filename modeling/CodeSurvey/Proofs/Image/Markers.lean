import CodeSurvey.Proofs.Image.StrictHits
import CodeSurvey.Proofs.Image.SweptHits
import CodeSurvey.Proofs.Sweep.Markers

/-!
# Markers of an image

* `Survey.landingPads_eq_markers` : the landing pads of a survey are the markers in the code of its
  segments, each once and by address, and a search in some code gives the lowest.
-/

namespace CodeSurvey.Survey

/-- In every segment the landing pads are the markers at aligned addresses in its code, each once
and in address order, whatever the policy is. In any code the search for one gives the lowest of
them. -/
theorem landingPads_eq_markers (o : ScanOptions) :
    (∀ (m : Image) (data : List UInt8) (s : Survey), ofImage m data = .ok s →
      ∀ segment ∈ m.executableSegments, ∃ c, Image.segmentCode segment data = .ok c ∧
        (((s.withOptions o).hits (.prologues .landingPad)).filter
          fun k => k.segment = segment.index).Pairwise (fun k l => k.address < l.address) ∧
        ∀ k, (k ∈ (s.withOptions o).hits (.prologues .landingPad) ∧ k.segment = segment.index) ↔
          ∃ a, c.IsMarker o a ∧ k = ⟨.prologue, a, 0, segment.index, none⟩) ∧
      ∀ c : Code,
        (∀ a, c.findPrologue? o .landingPad = some a ↔
          c.IsMarker o a ∧ ∀ b, c.IsMarker o b → a ≤ b) ∧
        (c.findPrologue? o .landingPad = none ↔ ∀ a, ¬c.IsMarker o a) := by
  refine ⟨?_, ?_⟩
  · intro m data s h segment hsegment
    rcases exists_part_of_mem_executableSegments h hsegment with ⟨c, hpart⟩
    refine ⟨c, (parts_of_ofImage h).2 _ hpart, ?_, ?_⟩
    · rw [hits_filter_eq_hitsIn h hpart o (.prologues .landingPad)]
      exact (Query.prologues .landingPad).pairwise_hitsIn o segment.index c
    · intro k
      calc
        k ∈ (s.withOptions o).hits (.prologues .landingPad) ∧ k.segment = segment.index ↔
            k ∈ (Query.prologues .landingPad).hitsIn o segment.index c :=
          mem_hits_segment_iff h o (.prologues .landingPad) hpart
        _ ↔ ∃ a, c.IsMarker o a ∧ k = ⟨.prologue, a, 0, segment.index, none⟩ :=
          Query.mem_hitsIn_landingPad_iff
  · intro c
    exact ⟨fun a => Code.findMarker?_eq_some_iff, Code.findMarker?_eq_none_iff⟩

/-- Two markers next to each other; then one that is not aligned, behind a byte that cannot be
decoded, and one at the end of the file. -/
def markerData : List UInt8 :=
  [0xf3, 0x0f, 0x1e, 0xfa, 0xf3, 0x0f, 0x1e, 0xfa,
    0x06, 0xf3, 0x0f, 0x1e, 0xfa, 0x90, 0x90, 0x90, 0xf3, 0x0f, 0x1e, 0xfa]

def markerSegment : Segment :=
  ⟨2, ⟨.ofNat 0x401000, .ofNat 0x401010⟩, ⟨true, false, true⟩, 8, 12⟩

def markerCode : Code :=
  ⟨.ofNat 0x401000, markerData.drop 8, by decide⟩

/-- Nothing can be decoded at the first byte, and still the last marker is found. -/
theorem landingPads_eq_markers_sample :
    ∃ s, ofImage sampleImage markerData = .ok s ∧
      markerSegment ∈ sampleImage.executableSegments ∧
      (∀ b, markerCode.IsMarker ⟨.stop, some 4⟩ b → Address.ofNat 0x401008 ≤ b) ∧
      ⟨.prologue, .ofNat 0x401008, 0, 2, none⟩ ∈
        (s.withOptions ⟨.stop, some 4⟩).hits (.prologues .landingPad) := by
  have hsurvey : ∃ s, ofImage sampleImage markerData = .ok s := ⟨_, rfl⟩
  have hsegment : markerSegment ∈ sampleImage.executableSegments := by decide
  have hcode : Image.segmentCode markerSegment markerData = .ok markerCode := rfl
  rcases hsurvey with ⟨s, hs⟩
  rcases landingPads_eq_markers ⟨.stop, some 4⟩ with ⟨hpads, hfirst⟩
  rcases hpads _ _ s hs markerSegment hsegment with ⟨c, hc, _, hhits⟩
  cases hc.symm.trans hcode
  -- The search in the code gives the lowest aligned marker, and that one is a hit.
  rcases ((hfirst markerCode).1 (.ofNat 0x401008)).1 (by decide) with ⟨hmarker, hleast⟩
  exact ⟨s, hs, hsegment, hleast, ((hhits _).2 ⟨_, hmarker, rfl⟩).1⟩

end CodeSurvey.Survey
