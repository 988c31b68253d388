import CodeSurvey.CommandLine.Run
import CodeSurvey.Proofs.Image.Provenance
import CodeSurvey.Proofs.Narrowing

/-!
# Hits in windows

A search in a window looks at the code of one executable segment, and then asks the table of loaded
segments which one has the address of the hit. These are two different questions: the first is about
executable segments and their bytes in the file, the second about all loaded segments and their
memory.

* `Survey.Selects` : the segment that is searched, and its code;
* `Image.IsFirstAt` : the segment that a hit is counted to;
* `CommandLine.answer_search_window` : the two are one exactly if no loaded segment in front has the
  address;
* `CommandLine.answer_search_sharedImage` : an image in which they differ.
-/

namespace CodeSurvey

/-! ## The code that is searched -/

namespace Survey

/-- `segment` is the first one whose code has a byte at `a`, and `c` is that code. -/
def Selects (s : Survey) (a : Address) (segment : Segment) (c : Code) : Prop :=
  ∃ pre post, s.parts = pre ++ (segment, c) :: post ∧ c.contains a = true ∧
    ∀ part ∈ pre, part.2.contains a = false

theorem codeAt?_eq_some_iff {s : Survey} {a : Address} {c : Code} :
    s.codeAt? a = some c ↔ ∃ segment, s.Selects a segment c := by
  rw [codeAt?, Option.map_eq_some_iff]
  constructor
  · rintro ⟨⟨segment, c⟩, hfind, rfl⟩
    rcases List.find?_eq_some_iff_append.1 hfind with ⟨hcontains, pre, post, hparts, hpre⟩
    exact ⟨segment, pre, post, hparts, hcontains, fun part hpart => by simpa using hpre part hpart⟩
  · rintro ⟨segment, pre, post, hparts, hcontains, hpre⟩
    refine ⟨(segment, c), List.find?_eq_some_iff_append.2 ⟨hcontains, pre, post, hparts, ?_⟩, rfl⟩
    intro part hpart
    simp [hpre part hpart]

theorem Selects.mem {s : Survey} {a : Address} {segment : Segment} {c : Code}
    (h : s.Selects a segment c) : (segment, c) ∈ s.parts := by
  rcases h with ⟨pre, post, hparts, _⟩
  rw [hparts]
  exact List.mem_append_right pre List.mem_cons_self

/-- The bytes that the file has for a segment lie in its memory. -/
theorem contains_segment_of_part {m : Image} {data : List UInt8} {s : Survey}
    (h : ofImage m data = .ok s) {segment : Segment} {c : Code} (hpart : (segment, c) ∈ s.parts)
    {a : Address} (ha : c.contains a = true) :
    segment ∈ m.segments ∧ segment.contains a = true := by
  have hexecutable := mem_executableSegments_of_part h hpart
  rcases exists_maps_of_part h hpart with ⟨header, hmaps, hbase, hbytes⟩
  rcases (c.contains_iff a).1 ha with ⟨hlow, hhigh⟩
  -- The file has no more bytes for a segment than its memory takes.
  have hend : segment.stop.toNat = segment.start.toNat + header.memSize := hmaps.places.stop_eq
  rw [hbytes, length_fileBytes hmaps] at hhigh
  rw [hbase] at hlow hhigh
  have hbelow : a.toNat < segment.stop.toNat := by omega
  exact ⟨(List.mem_filter.1 hexecutable).1, Address.isWithin_iff.2 ⟨hlow, hbelow⟩⟩

end Survey

/-! ## The segment that is reported -/

/-- `n` is the index of the first loaded segment that has the address. -/
structure Image.IsFirstAt (m : Image) (a : Address) (n : Nat) : Prop where
  exists_contains : ∃ s ∈ m.segments, s.index = n ∧ s.contains a = true
  least : ∀ s ∈ m.segments, s.contains a = true → n ≤ s.index

namespace Image

variable {m : Image} {a : Address} {n : Nat} {s : Segment}

theorem isFirstAt_segmentIndexAt (hs : s ∈ m.segments) (ha : s.contains a = true) :
    m.IsFirstAt a (CommandLine.segmentIndexAt m a) := by
  cases hfind : m.segments.find? fun t => t.contains a with
  | none =>
    -- The segment itself would have been found.
    have hnone := List.find?_eq_none.1 hfind s hs
    exact absurd ha hnone
  | some t =>
    have hindex : CommandLine.segmentIndexAt m a = t.index := by
      rw [CommandLine.segmentIndexAt, hfind]
      rfl
    rcases List.find?_eq_some_iff_append.1 hfind with ⟨ht, pre, post, hsegments, hpre⟩
    rw [hindex]
    refine ⟨⟨t, List.mem_of_find?_eq_some hfind, rfl, ht⟩, ?_⟩
    intro u hu hua
    -- No segment in front of the one found has the address, and those behind it have larger indices.
    have hordered := m.pairwise_index_segments
    rw [hsegments, List.pairwise_map, List.pairwise_append] at hordered
    rw [hsegments] at hu
    rcases List.mem_append.1 hu with hu | hu
    · exact absurd hua (by simpa using hpre u hu)
    · rcases List.mem_cons.1 hu with rfl | hu
      · exact Nat.le_refl _
      · exact Nat.le_of_lt ((List.pairwise_cons.1 hordered.2.1).1 u hu)

/-- A segment that has the address is the first one exactly if none in front of it has it too. -/
theorem IsFirstAt.eq_index_iff (h : m.IsFirstAt a n) (hs : s ∈ m.segments)
    (ha : s.contains a = true) :
    n = s.index ↔ ∀ t ∈ m.segments, t.index < s.index → t.contains a = false := by
  constructor
  · intro hn t ht hlt
    cases hta : t.contains a with
    | false => rfl
    | true =>
      have hle := h.least t ht hta
      omega
  · intro hnone
    rcases h.exists_contains with ⟨t, ht, rfl, hta⟩
    have hle := h.least s hs ha
    refine Nat.le_antisymm hle (Nat.le_of_not_lt ?_)
    intro hlt
    simp [hnone t ht hlt] at hta

end Image

namespace Query

variable {q : Query} {o : ScanOptions} {c : Code} {h : Hit}

theorem contains_of_firstHit? {segmentAt : Address → Nat}
    (hfirst : q.firstHit? o segmentAt c = some h) : c.contains h.address = true := by
  rcases firstHit?_bounds c.isTail_self hfirst with ⟨hlow, hup, hstop⟩
  have hend := c.toNat_stop
  have hstart : c.start.toNat = c.base.toNat := rfl
  rw [Code.contains_iff]
  omega

end Query

/-! ## Answers -/

namespace CommandLine

/-- The hit lies in the window and in the code `c` of `segment`. It is counted to the first loaded
segment that has its address. -/
structure Window.Reports (w : Window) (m : Image) (segment : Segment) (c : Code) (k : Hit) :
    Prop where
  inCode : c.contains k.address = true
  above : ∀ start ∈ w.start, start ≤ k.address
  below : ∀ stop ∈ w.stop, k.address < stop
  counted : m.IsFirstAt k.address k.segment
  searched_iff : k.segment = segment.index ↔
    ∀ t ∈ m.segments, t.index < segment.index → t.contains k.address = false

variable {m : Image} {data : List UInt8} {settings : Settings} {q : Query} {o : ScanOptions}
  {s : Survey} {w : Window} {start : Address}

theorem Window.code?_eq_ok_iff {found : Option Code} (hstart : w.start = some start) :
    w.code? s = .ok found ↔ ∃ segment c part, s.Selects start segment c ∧
      c.subrange start (w.stop.getD c.stop) = .ok part ∧ found = some part := by
  constructor
  · intro hcode
    simp only [Window.code?, hstart] at hcode
    split at hcode
    · cases hcode
    · next c hc =>
      rcases Survey.codeAt?_eq_some_iff.1 hc with ⟨segment, hsegment⟩
      split at hcode
      · next part hpart =>
        cases hcode
        exact ⟨segment, c, part, hsegment, hpart, rfl⟩
      · cases hcode
  · rintro ⟨segment, c, part, hsegment, hpart, rfl⟩
    have hcode : s.codeAt? start = some c := Survey.codeAt?_eq_some_iff.2 ⟨segment, hsegment⟩
    simp [Window.code?, hstart, hcode, hpart]

/-- What is found in a window is reported so, if the window is one of the code of the segment. -/
theorem Window.reports_of_firstHit? (hs : Survey.ofImage m data = .ok s) {segment : Segment}
    {c part : Code} (hpart : (segment, c) ∈ s.parts) (hstart : w.start = some start)
    (hsub : c.subrange start (w.stop.getD c.stop) = .ok part) {k : Hit}
    (hfirst : q.firstHit? o (segmentIndexAt m) part = some k) : w.Reports m segment c k := by
  rcases (Code.contains_subrange_iff hsub).1 (Query.contains_of_firstHit? hfirst) with
    ⟨hin, hlow, hhigh⟩
  rcases Survey.contains_segment_of_part hs hpart hin with ⟨hsegment, hcontains⟩
  have hcounted : m.IsFirstAt k.address k.segment := by
    rw [Query.segment_of_firstHit? hfirst]
    exact Image.isFirstAt_segmentIndexAt hsegment hcontains
  refine ⟨hin, ?_, ?_, hcounted, hcounted.eq_index_iff hsegment hcontains⟩
  · intro start' hstart'
    cases hstart.symm.trans hstart'
    exact hlow
  · intro stop hstop
    rw [Option.mem_def.1 hstop] at hhigh
    exact hhigh

/-- A search in a window answers with the first hit in it, which lies in the code that the start of
the window selects. It is counted to the first loaded segment that has its address. That is the
selected one exactly if no loaded segment in front of it has the address too, while a sweep of the
whole image counts what it finds in that code to the selected segment always. -/
theorem answer_search_window {asJson : Bool} {lines : List String} (hstart : w.start = some start)
    (hanswer : Command.answer asJson settings m data (.search q w) = .ok lines) :
    ∃ s segment c part hits, surveyOf m data settings = .ok s ∧ s.Selects start segment c ∧
      c.subrange start (w.stop.getD c.stop) = .ok part ∧ lines = Report.hits asJson hits ∧
      hits.map (fun k => k.countedTo segment.index) =
        (q.firstHit? settings.scanOptions (fun _ => segment.index) part).toList ∧
      (∀ k ∈ hits, w.Reports m segment c k) ∧
      ∀ k, k ∈ s.hits q ∧ k.segment = segment.index ↔ k ∈ q.hitsIn s.options segment.index c := by
  -- The three things that an answer is made of: the survey, the code of the window, the hits in it.
  rcases Except.bind_eq_ok_iff.1 hanswer with ⟨s, hsurvey, hrest⟩
  rcases Except.bind_eq_ok_iff.1 hrest with ⟨hits, hhits, hlines⟩
  rcases Except.bind_eq_ok_iff.1 hhits with ⟨found, hcode, hfound⟩
  rcases (Window.code?_eq_ok_iff hstart).1 hcode with ⟨segment, c, part, hselects, hsub, rfl⟩
  cases hlines
  cases hfound
  cases hs : Survey.ofImage m data with
  | error e => simp [surveyOf, hs] at hsurvey
  | ok plain =>
    simp only [surveyOf, hs, Except.ok.injEq] at hsurvey
    subst hsurvey
    have hpart : (segment, c) ∈ plain.parts := hselects.mem
    refine ⟨_, segment, c, part, _, by simp [surveyOf, hs], hselects, hsub, rfl, ?_, ?_, ?_⟩
    · have hsame := Query.firstHit?_segment q settings.scanOptions (segmentIndexAt m)
        (fun _ => segment.index) part
      rw [hsame, Option.toList_map]
    · intro k hk
      exact Window.reports_of_firstHit? hs hpart hstart hsub (Option.mem_toList.1 hk)
    · intro k
      exact Survey.mem_hits_segment_iff hs settings.sweepOptions q hpart

/-- A segment that is only read, and one that is executed and lies in its last bytes. -/
def sharedImage : Image where
  base := .ofNat 0x400000
  loadBias := 0x400000
  headers := [⟨1, 4, 0, 0x400000, 8, 8⟩, ⟨1, 5, 3, 0x400003, 5, 5⟩]

/-- The call that both segments have. -/
def sharedCall : List UInt8 :=
  [0xe8, 0x00, 0x00, 0x00, 0x00]

def sharedData : List UInt8 :=
  [0x00, 0x00, 0x00] ++ sharedCall

/-- From the call on, as far as the segment goes. -/
def callWindow : Window :=
  { start := some (.ofNat 0x400003) }

/-- The code of the executed segment. -/
def sharedCode : Code :=
  ⟨.ofNat 0x400003, sharedCall, by decide⟩

/-- The executed segment. -/
def sharedSegment : Segment :=
  ⟨1, ⟨.ofNat 0x400003, .ofNat 0x400008⟩, ⟨true, false, true⟩, 3, 5⟩

theorem answer_search_window_sharedImage :
    ∃ s segment c part hits lines, callWindow.start = some (.ofNat 0x400003) ∧
      Command.answer true .defaults sharedImage sharedData (.search (.calls none) callWindow) =
        .ok lines ∧
      surveyOf sharedImage sharedData .defaults = .ok s ∧
      s.Selects (.ofNat 0x400003) segment c ∧
      c.subrange (.ofNat 0x400003) (callWindow.stop.getD c.stop) = .ok part ∧
      lines = Report.hits true hits ∧
      hits.map (fun k => k.countedTo segment.index) =
        ((Query.calls none).firstHit? Settings.defaults.scanOptions (fun _ => segment.index)
          part).toList ∧
      ∀ k ∈ hits, callWindow.Reports sharedImage segment c k := by
  rcases @answer_search_window sharedImage sharedData .defaults (.calls none) callWindow
    (.ofNat 0x400003) true _ rfl rfl with
    ⟨s, segment, c, part, hits, hsurvey, hselects, hsub, hlines, hfirst, hreports, _⟩
  exact ⟨s, segment, c, part, hits, _, rfl, rfl, hsurvey, hselects, hsub, hlines, hfirst, hreports⟩

/-- The window selects the executed segment, and a sweep of the image counts the call to it. The
search in the window counts the same call to the segment that is only read. -/
theorem answer_search_sharedImage :
    ∃ s k, surveyOf sharedImage sharedData .defaults = .ok s ∧
      s.Selects (.ofNat 0x400003) sharedSegment sharedCode ∧
      Command.answer true .defaults sharedImage sharedData (.search (.calls none) callWindow) =
        .ok (Report.hits true [k]) ∧
      k.segment ≠ sharedSegment.index ∧
      k.countedTo sharedSegment.index ∈ s.hits (.calls none) := by
  have hplain : Survey.ofImage sharedImage sharedData =
      .ok ⟨Survey.defaultOptions, [(sharedSegment, sharedCode)]⟩ := rfl
  have hhit : ⟨.call, .ofNat 0x400003, 5, 1, some (.ofNat 0x400008)⟩ ∈
      (Query.calls none).hitsIn Settings.defaults.sweepOptions 1 sharedCode := by
    decide
  have hswept := (Survey.mem_hits_segment_iff hplain Settings.defaults.sweepOptions (.calls none)
    List.mem_cons_self).2 hhit
  exact ⟨_, ⟨.call, .ofNat 0x400003, 5, 0, some (.ofNat 0x400008)⟩, rfl,
    ⟨[], [], rfl, by decide, by simp⟩, rfl, by decide, hswept.1⟩

end CommandLine

end CodeSurvey
