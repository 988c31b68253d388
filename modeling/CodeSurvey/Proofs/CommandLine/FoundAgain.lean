import CodeSurvey.Proofs.CommandLine.Windows
import Mathlib.Data.List.Nodup

/-!
# Hits that are found again

A sweep of an image, a search in a window and a listing choose the code that they look at in
different ways. If no two loaded segments share an address, they come to the same code: what a sweep
finds at an address, the commands find there too.

* `Image.LoadsDisjoint` : no two loaded segments share an address;
* `Survey.codeAt?_of_part`, `Image.segmentIndexAt_of_part` : then an address has one piece of code
  and one segment;
* `Code.findFirst?_of_decode` : a wanted instruction at the start of some code is found first;
* `CommandLine.FindsAgain` : what the commands answer at the address of a hit;
* `CommandLine.findsAgain_of_mem_hits` : they find every call and every address load again.
-/

namespace CodeSurvey

/-! ## One segment at an address -/

/-- No two loaded segments share an address. -/
def Image.LoadsDisjoint (m : Image) : Prop :=
  ∀ s ∈ m.segments, ∀ t ∈ m.segments, s.index ≠ t.index →
    ∀ a : Address, s.contains a = true → t.contains a = false

section

variable {m : Image} {data : List UInt8} {s : Survey} {segment : Segment} {c : Code} {a : Address}

theorem Image.LoadsDisjoint.index_eq (h : m.LoadsDisjoint) {s t : Segment} (hs : s ∈ m.segments)
    (ht : t ∈ m.segments) (hsa : s.contains a = true) (hta : t.contains a = true) :
    s.index = t.index := by
  by_contra hne
  have hnot := h s hs t ht hne a hsa
  simp [hnot] at hta

@[simp] theorem Survey.codeAt?_withOptions (s : Survey) (o : ScanOptions) (a : Address) :
    (s.withOptions o).codeAt? a = s.codeAt? a := rfl

/-- No two parts share an address, as the bytes of a part lie in its segment. -/
theorem Survey.part_eq_of_contains (hs : ofImage m data = .ok s) (hdisjoint : m.LoadsDisjoint)
    {part part' : Segment × Code} (hpart : part ∈ s.parts) (hpart' : part' ∈ s.parts)
    (ha : part.2.contains a = true) (ha' : part'.2.contains a = true) : part = part' := by
  rcases contains_segment_of_part hs hpart ha with ⟨hsegment, hsa⟩
  rcases contains_segment_of_part hs hpart' ha' with ⟨hsegment', hsa'⟩
  have hindex : part.1.index = part'.1.index := hdisjoint.index_eq hsegment hsegment' hsa hsa'
  -- Indices grow from part to part, so there is one part with this index.
  have hnodup : (s.parts.map fun part => part.1.index).Nodup := by
    rw [List.nodup_iff_pairwise_ne, List.pairwise_map]
    exact (pairwise_index_parts hs).imp fun hlt => Nat.ne_of_lt hlt
  exact List.inj_on_of_nodup_map hnodup hpart hpart' hindex

/-- The code of a part that has an address is the code at it. -/
theorem Survey.codeAt?_of_part (hs : ofImage m data = .ok s) (hdisjoint : m.LoadsDisjoint)
    (hpart : (segment, c) ∈ s.parts) (ha : c.contains a = true) : s.codeAt? a = some c := by
  cases hfind : s.parts.find? fun part => part.2.contains a with
  | none =>
    have hnone := List.find?_eq_none.1 hfind (segment, c) hpart
    exact absurd ha hnone
  | some found =>
    have hfound : found ∈ s.parts := List.mem_of_find?_eq_some hfind
    have hfa : found.2.contains a = true := by simpa using List.find?_some hfind
    have hsame : found = (segment, c) := part_eq_of_contains hs hdisjoint hfound hpart hfa ha
    rw [codeAt?, hfind, hsame]
    rfl

/-- A hit in the code of a part is counted to its segment. -/
theorem Image.segmentIndexAt_of_part (hs : Survey.ofImage m data = .ok s)
    (hdisjoint : m.LoadsDisjoint) (hpart : (segment, c) ∈ s.parts) (ha : c.contains a = true) :
    CommandLine.segmentIndexAt m a = segment.index := by
  rcases Survey.contains_segment_of_part hs hpart ha with ⟨hsegment, hsa⟩
  rcases (isFirstAt_segmentIndexAt hsegment hsa).exists_contains with ⟨t, ht, hindex, hta⟩
  rw [← hindex]
  exact hdisjoint.index_eq ht hsegment hta hsa

end

/-! ## The instruction at the start -/

namespace Code

variable {c : Code} {i : Insn}

/-- Nothing comes before the instruction at the start, under either policy. -/
theorem findFirst?_of_decode {wanted : Insn → Bool} (p : Resync)
    (hdecode : c.decode c.start = .ok i) (hwanted : wanted i = true) :
    c.findFirst? p wanted = some i := by
  have hsweep : c.sweep p = .decoded i :: c.linearSweep p i.stop := by
    rw [c.sweep_eq_linearSweep, linearSweep_of_ok hdecode]
  rw [findFirst?_eq, instructions, hsweep]
  simp [hwanted]

theorem listing_of_decode {a : Address} (hdecode : c.decode a = .ok i) {count : Nat}
    (hcount : 1 ≤ count) : c.listing count a = i :: c.listing (count - 1) i.stop := by
  cases count with
  | zero => omega
  | succ n => simp [listing, hdecode]

/-- A window from an instruction of the code on begins with it, if it has room for it. -/
theorem exists_subrange_decode {stop : Address} (hdecode : c.decode i.start = .ok i)
    (hroom : i.start.toNat + i.length ≤ stop.toNat) :
    ∃ d, c.subrange i.start stop = .ok d ∧ d.decode d.start = .ok i := by
  have hlow := ((c.contains_iff i.start).1 (contains_of_decode hdecode)).1
  have horder : i.start ≤ stop := by
    rw [Address.le_iff]
    omega
  rcases c.exists_subrange horder with ⟨d, hsub⟩
  have hstart : d.start = i.start := by
    apply Address.toNat_inj
    calc
      d.start.toNat = max i.start.toNat c.base.toNat := (base_bytes_subrange hsub).1
      _ = i.start.toNat := Nat.max_eq_left hlow
  refine ⟨d, hsub, ?_⟩
  rw [hstart]
  exact (decode_subrange_iff hsub).2 ⟨hdecode, Nat.le_refl _, hroom⟩

end Code

/-! ## Answers -/

namespace CommandLine

/-- The commands at the address of a hit come back to it. The code there has all of the hit. The
same search in a window that begins with the hit and does not cut it gives the hit and nothing else,
and a listing of the code there has a first row, which is that of the hit. -/
structure FindsAgain (m : Image) (data : List UInt8) (s : Survey) (settings : Settings) (q : Query)
    (k : Hit) : Prop where
  code : ∃ c, s.codeAt? k.address = some c ∧ ∀ a : Address, k.address.toNat ≤ a.toNat →
    a.toNat < k.address.toNat + k.length → c.contains a = true
  window : ∀ stop : Option Address, (∀ b ∈ stop, k.address.toNat + k.length ≤ b.toNat) →
    Window.hits ⟨some k.address, stop⟩ q settings.scanOptions m s = .ok [k]
  search : ∀ stop : Option Address, (∀ b ∈ stop, k.address.toNat + k.length ≤ b.toNat) →
    ∀ asJson, Command.answer asJson settings m data (.search q ⟨some k.address, stop⟩) =
      .ok (Report.hits asJson [k])
  listing : ∀ count : Option Nat, 1 ≤ count.getD settings.maxListing →
    ∃ c line rest, s.codeAt? k.address = some c ∧
      (c.listing (count.getD settings.maxListing) k.address).map (ListingLine.ofInsn c) =
        line :: rest ∧
      line.address = k.address ∧ line.length = k.length ∧
      ∀ asJson, Command.answer asJson settings m data (.listing k.address count) =
        .ok (Report.listing asJson (line :: rest))

variable {m : Image} {data : List UInt8} {settings : Settings} {s : Survey} {segment : Segment}
  {c : Code} {i : Insn} {q : Query} {kind : HitKind} {wanted : Insn → Bool}

theorem answer_search_of_hits {w : Window} {hits : List Hit} (asJson : Bool)
    (hsurvey : surveyOf m data settings = .ok s)
    (hhits : w.hits q settings.scanOptions m s = .ok hits) :
    Command.answer asJson settings m data (.search q w) = .ok (Report.hits asJson hits) := by
  simp [Command.answer, hsurvey, hhits, bind, Except.bind, pure, Except.pure]

theorem answer_listing_of_codeAt? {start : Address} (asJson : Bool) (count : Option Nat)
    (hsurvey : surveyOf m data settings = .ok s) (hcode : s.codeAt? start = some c) :
    Command.answer asJson settings m data (.listing start count) =
      .ok (Report.listing asJson ((c.listing (count.getD settings.maxListing) start).map
        (ListingLine.ofInsn c))) := by
  simp [Command.answer, hsurvey, hcode, bind, Except.bind, pure, Except.pure]

/-- The window is one of the code of the part, and the wanted instruction is the first in it. How
the image is swept does not matter. -/
theorem Window.hits_of_decode (hs : Survey.ofImage m data = .ok s) (hdisjoint : m.LoadsDisjoint)
    (hpart : (segment, c) ∈ s.parts) (hdecode : c.decode i.start = .ok i)
    (hq : q.Seeks kind wanted) (hwanted : wanted i = true) (o sweep : ScanOptions)
    {stop : Option Address} (hstop : ∀ b ∈ stop, i.start.toNat + i.length ≤ b.toNat) :
    Window.hits ⟨some i.start, stop⟩ q o m (s.withOptions sweep) =
      .ok [.ofInsn kind segment.index i] := by
  have hin : c.contains i.start = true := Code.contains_of_decode hdecode
  have hfound : s.codeAt? i.start = some c := Survey.codeAt?_of_part hs hdisjoint hpart hin
  have hroom : i.start.toNat + i.length ≤ (stop.getD c.stop).toNat := by
    cases stop with
    | none =>
      rcases Code.stop_of_decode hdecode with ⟨hend, _, hle⟩
      rw [← hend]
      exact hle
    | some b => exact hstop b rfl
  -- The window begins with the instruction, so the search finds it before anything else.
  rcases Code.exists_subrange_decode hdecode hroom with ⟨d, hsub, hfirst⟩
  have hcode : Window.code? ⟨some i.start, stop⟩ (s.withOptions sweep) = .ok (some d) := by
    simp [Window.code?, hfound, hsub]
  have hhit : q.firstHit? o (segmentIndexAt m) d = some (.ofInsn kind segment.index i) := by
    rw [hq.first, Code.findFirst?_of_decode o.resync hfirst hwanted, Option.map_some,
      Image.segmentIndexAt_of_part hs hdisjoint hpart hin]
  calc
    Window.hits ⟨some i.start, stop⟩ q o m (s.withOptions sweep) =
        .ok (q.firstHit? o (segmentIndexAt m) d).toList := by
      rw [Window.hits, hcode]
      rfl
    _ = .ok [.ofInsn kind segment.index i] := by rw [hhit, Option.toList_some]

/-- What a part of the survey has as an instruction, the commands find. -/
theorem findsAgain_of_decode (hs : Survey.ofImage m data = .ok s) (hdisjoint : m.LoadsDisjoint)
    (o : ScanOptions) (settings : Settings) (hpart : (segment, c) ∈ s.parts)
    (hdecode : c.decode i.start = .ok i) (hq : q.Seeks kind wanted) (hwanted : wanted i = true) :
    FindsAgain m data (s.withOptions o) settings q (.ofInsn kind segment.index i) := by
  have hin : c.contains i.start = true := Code.contains_of_decode hdecode
  have hcode (sweep : ScanOptions) : (s.withOptions sweep).codeAt? i.start = some c := by
    rw [Survey.codeAt?_withOptions, Survey.codeAt?_of_part hs hdisjoint hpart hin]
  have hsurvey : surveyOf m data settings = .ok (s.withOptions settings.sweepOptions) := by
    rw [surveyOf, hs]
  have hwindow (sweep : ScanOptions) (stop : Option Address)
      (hstop : ∀ b ∈ stop, i.start.toNat + i.length ≤ b.toNat) :
      Window.hits ⟨some i.start, stop⟩ q settings.scanOptions m (s.withOptions sweep) =
        .ok [.ofInsn kind segment.index i] :=
    Window.hits_of_decode hs hdisjoint hpart hdecode hq hwanted settings.scanOptions sweep hstop
  refine ⟨⟨c, hcode o, ?_⟩, hwindow o, ?_, ?_⟩
  · intro a hlow hhigh
    rcases Code.stop_of_decode hdecode with ⟨hend, _, hle⟩
    have habove := ((c.contains_iff i.start).1 hin).1
    have hlow' : i.start.toNat ≤ a.toNat := hlow
    have hhigh' : a.toNat < i.start.toNat + i.length := hhigh
    rw [c.toNat_stop] at hle
    exact (c.contains_iff a).2 (by omega)
  · intro stop hstop asJson
    exact answer_search_of_hits asJson hsurvey (hwindow settings.sweepOptions stop hstop)
  · intro count hcount
    have hrows : (c.listing (count.getD settings.maxListing) i.start).map (ListingLine.ofInsn c) =
        ListingLine.ofInsn c i :: (c.listing (count.getD settings.maxListing - 1) i.stop).map
          (ListingLine.ofInsn c) := by
      rw [Code.listing_of_decode hdecode hcount, List.map_cons]
    refine ⟨c, _, _, hcode o, hrows, rfl, rfl, ?_⟩
    intro asJson
    rw [← hrows]
    exact answer_listing_of_codeAt? asJson count hsurvey (hcode settings.sweepOptions)

/-- If no two loaded segments share an address, every call and every address load of a sweep is
found again at its address, by a search in a window and by a listing, whatever the settings are. -/
theorem findsAgain_of_mem_hits (hs : Survey.ofImage m data = .ok s) (hdisjoint : m.LoadsDisjoint)
    (o : ScanOptions) (settings : Settings) :
    (∀ target : Option Address, ∀ k ∈ (s.withOptions o).hits (.calls target),
      FindsAgain m data (s.withOptions o) settings (.calls target) k) ∧
      ∀ displacement : Int, ∀ k ∈ (s.withOptions o).hits (.leas displacement),
        FindsAgain m data (s.withOptions o) settings (.leas displacement) k := by
  have hfind {q : Query} {kind : HitKind} {wanted : Insn → Bool} (hq : q.Seeks kind wanted)
      (k : Hit) (hk : k ∈ (s.withOptions o).hits q) :
      FindsAgain m data (s.withOptions o) settings q k := by
    rcases Survey.exists_decode_of_mem_hits (hq.hitsIn_eq o) hk with
      ⟨segment, c, i, hpart, hdecode, hwanted, rfl⟩
    exact findsAgain_of_decode hs hdisjoint o settings hpart hdecode hq hwanted
  exact ⟨fun target => hfind (Query.seeks_calls target), fun displacement =>
    hfind (Query.seeks_leas displacement)⟩

/-- A segment that is only read ends where the one that is executed begins. -/
def splitImage : Image where
  base := .ofNat 0x400000
  loadBias := 0x400000
  headers := [⟨1, 4, 0, 0x400000, 3, 3⟩, ⟨1, 5, 3, 0x400003, 5, 5⟩]

theorem loadsDisjoint_splitImage : splitImage.LoadsDisjoint := by
  have hsegments : splitImage.segments =
      [⟨0, ⟨.ofNat 0x400000, .ofNat 0x400003⟩, ⟨true, false, false⟩, 0, 3⟩, sharedSegment] := rfl
  intro s hs t ht hne a hsa
  rw [Segment.contains, AddressRange.contains, Address.isWithin_iff] at hsa
  rw [Segment.contains, AddressRange.contains, ← Bool.not_eq_true, Address.isWithin_iff]
  rw [hsegments] at hs ht
  -- One ends where the other begins, and that is the same address.
  rcases List.mem_pair.1 hs with rfl | rfl
  · rcases List.mem_pair.1 ht with rfl | rfl
    · exact absurd rfl hne
    · exact fun hta => absurd hsa.2 (Nat.not_lt_of_le hta.1)
  · rcases List.mem_pair.1 ht with rfl | rfl
    · exact fun hta => absurd hta.2 (Nat.not_lt_of_le hsa.1)
    · exact absurd rfl hne

/-- The call, counted to the segment that is executed. -/
def splitHit : Hit :=
  ⟨.call, .ofNat 0x400003, 5, 1, some (.ofNat 0x400008)⟩

/-- The sweep goes on behind what cannot be decoded, the search in the window does not; its window
ends right behind the call. -/
theorem findsAgain_of_mem_hits_splitImage :
    ∃ s, Survey.ofImage splitImage sharedData = .ok s ∧ splitImage.LoadsDisjoint ∧
      splitHit ∈ (s.withOptions ⟨.byteWise, none⟩).hits (.calls none) ∧
      FindsAgain splitImage sharedData (s.withOptions ⟨.byteWise, none⟩) .defaults (.calls none)
        splitHit ∧
      Command.answer true .defaults splitImage sharedData
          (.search (.calls none) ⟨some (.ofNat 0x400003), some (.ofNat 0x400008)⟩) =
        .ok (Report.hits true [splitHit]) := by
  have hsurvey : Survey.ofImage splitImage sharedData =
      .ok ⟨Survey.defaultOptions, [(sharedSegment, sharedCode)]⟩ := rfl
  have hin : splitHit ∈ (Query.calls none).hitsIn ⟨.byteWise, none⟩ 1 sharedCode := by decide
  have hhit := ((Survey.mem_hits_segment_iff hsurvey ⟨.byteWise, none⟩ (.calls none)
    List.mem_cons_self).2 hin).1
  have hagain := (findsAgain_of_mem_hits hsurvey loadsDisjoint_splitImage ⟨.byteWise, none⟩
    .defaults).1 none splitHit hhit
  have hroom : ∀ b ∈ some (Address.ofNat 0x400008), splitHit.address.toNat + splitHit.length ≤
      b.toNat := by
    rintro b ⟨⟩
    decide
  exact ⟨_, hsurvey, loadsDisjoint_splitImage, hhit, hagain, hagain.search _ hroom true⟩

end CommandLine

end CodeSurvey
