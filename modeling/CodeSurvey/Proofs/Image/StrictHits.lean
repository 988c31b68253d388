import CodeSurvey.Proofs.Image.StoppedHits
import CodeSurvey.Proofs.Sweep.Policies

/-!
# Hits of strict and of other sweeps

What a survey finds in one segment under the two policies.

* `Survey.hits_filter_eq_hitsIn` : the hits of one segment, in the order of the whole list;
* `Survey.strict_hits_isPrefix_byteWise` : those of strict sweeps are the first of those of the
  others, and markers are the same.
-/

namespace CodeSurvey

namespace Survey

variable {m : Image} {data : List UInt8} {s : Survey}

/-- Rounds go up, so sorting all hits by address leaves those of one segment as the search in its
code gives them. -/
theorem hits_filter_eq_hitsIn (h : ofImage m data = .ok s) {part : Segment × Code}
    (hpart : part ∈ s.parts) (o : ScanOptions) (q : Query) :
    ((s.withOptions o).hits q).filter (fun k => k.segment = part.1.index) =
      q.hitsIn o part.1.index part.2 :=
  hits_filter_segment h o q hpart
    ((q.pairwise_hitsIn o part.1.index part.2).imp fun hlt => Nat.le_of_lt hlt)

/-- In every segment the hits of a strict sweep are the first hits of one that goes on byte by byte,
whatever is searched for. Landing pads are the same under both. -/
theorem strict_hits_isPrefix_byteWise (h : ofImage m data = .ok s) (alignment : Option Nat)
    {segment : Segment} (hsegment : segment ∈ m.executableSegments) :
    (∀ q : Query,
      ((s.withOptions ⟨.stop, alignment⟩).hits q).filter (fun k => k.segment = segment.index) <+:
        ((s.withOptions ⟨.byteWise, alignment⟩).hits q).filter
          fun k => k.segment = segment.index) ∧
      ((s.withOptions ⟨.stop, alignment⟩).hits (.prologues .landingPad)).filter
          (fun k => k.segment = segment.index) =
        ((s.withOptions ⟨.byteWise, alignment⟩).hits (.prologues .landingPad)).filter
          fun k => k.segment = segment.index := by
  rcases exists_part_of_mem_executableSegments h hsegment with ⟨c, hpart⟩
  have hhits (p : Resync) (q : Query) :
      ((s.withOptions ⟨p, alignment⟩).hits q).filter (fun k => k.segment = segment.index) =
        q.hitsIn ⟨p, alignment⟩ segment.index c :=
    hits_filter_eq_hitsIn h hpart ⟨p, alignment⟩ q
  refine ⟨?_, ?_⟩
  · intro q
    rw [hhits, hhits]
    exact q.hitsIn_stop_isPrefix_byteWise alignment segment.index c
  · rw [hhits, hhits]
    exact Query.hitsIn_landingPad .stop .byteWise alignment segment.index c

/-- The call behind the byte that cannot be decoded. -/
def lateCall : Hit :=
  ⟨.call, .ofNat 0x400009, 5, 0, some (.ofNat 0x40000e)⟩

/-- The strict sweep does not get to the second call. -/
theorem strict_hits_isPrefix_byteWise_faultCode :
    ∃ s, ofImage faultImage faultData = .ok s ∧ faultSegment ∈ faultImage.executableSegments ∧
      ((s.withOptions ⟨.stop, none⟩).hits (.calls none)).filter (fun k => k.segment = 0) <+:
        ((s.withOptions ⟨.byteWise, none⟩).hits (.calls none)).filter (fun k => k.segment = 0) ∧
      lateCall ∈ (s.withOptions ⟨.byteWise, none⟩).hits (.calls none) ∧
      lateCall ∉ (s.withOptions ⟨.stop, none⟩).hits (.calls none) := by
  have hsurvey : ofImage faultImage faultData =
      .ok ⟨defaultOptions, [(faultSegment, faultCode)]⟩ := rfl
  have hsegment : faultSegment ∈ faultImage.executableSegments := by decide
  have hmem (p : Resync) : lateCall ∈ (withOptions ⟨defaultOptions, [(faultSegment, faultCode)]⟩
      ⟨p, none⟩).hits (.calls none) ∧ lateCall.segment = 0 ↔
        lateCall ∈ (Query.calls none).hitsIn ⟨p, none⟩ 0 faultCode :=
    mem_hits_segment_iff hsurvey ⟨p, none⟩ (.calls none) List.mem_cons_self
  have hfront := (strict_hits_isPrefix_byteWise hsurvey none hsegment).1 (.calls none)
  refine ⟨_, hsurvey, hsegment, hfront, ((hmem .byteWise).2 (by decide)).1, ?_⟩
  intro hstrict
  have hin := (hmem .stop).1 ⟨hstrict, rfl⟩
  exact absurd hin (by decide)

end Survey

end CodeSurvey
