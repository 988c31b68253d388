import CodeSurvey.Proofs.Decode.Placement
import CodeSurvey.Proofs.Image.Parts

/-!
# The bytes of a segment

A program header names bytes of the file with numbers that nobody has checked. Either the file has
all of these bytes, and then they lie where the segment does, or the segment is refused with the
numbers of its header. There is no third outcome.

* `Elf.ProgramHeader.FitsIn` : the file has the bytes of an entry;
* `Image.MapsExactly` : the code of a segment has them at their addresses, and nothing else;
* `Image.fileBytes?`, `segmentCodeInSteps` : the same with one check after the other, on words;
* `Image.MapsOrRefuses`, `mapsOrRefuses` : the outcomes for one segment;
* `Survey.MapsAllOrRefuses`, `mapsAllOrRefuses` : those for all executable segments together;
* `Image.segments_map_or_refuse` : both for every image and every file.
-/

namespace CodeSurvey

/-- The file has all bytes of the entry that its part of the file and its memory have room for. -/
def Elf.ProgramHeader.FitsIn (h : Elf.ProgramHeader) (data : List UInt8) : Prop :=
  h.offset + min h.fileSize h.memSize ≤ data.length

instance (h : Elf.ProgramHeader) (data : List UInt8) : Decidable (h.FitsIn data) :=
  inferInstanceAs (Decidable (h.offset + min h.fileSize h.memSize ≤ data.length))

/-- The byte at an address of some code, by its distance from the start. -/
theorem Code.read?_of_contains {c : Code} {a : Address} (h : c.contains a = true) :
    c.read? a = c.bytes[a.toNat - c.base.toNat]? := by
  rw [read?, bytesFrom?_of_contains h, Option.bind_some, List.head?_drop]

namespace Image

variable {m : Image} {s : Segment} {h : Elf.ProgramHeader} {n : Nat} {data bytes : List UInt8}
  {c : Code}

/-! ## Exact mapping -/

/-- The code lies at the start of the segment and has the bytes of its header. -/
structure MapsExactly (s : Segment) (h : Elf.ProgramHeader) (data : List UInt8) (c : Code) :
    Prop where
  start : c.start = s.start
  stop : c.stop ≤ s.stop
  length : c.length = min h.fileSize h.memSize
  inside : ∀ a, c.contains a = true →
    ∃ b, data[h.offset + (a.toNat - s.start.toNat)]? = some b ∧ c.read? a = some b
  outside : ∀ a, c.contains a = false → c.read? a = none

theorem IsSegmentOf.fitsIn_iff (hs : m.IsSegmentOf n h s) :
    h.FitsIn data ↔ s.fileOffset + min s.fileSize s.size ≤ data.length := by
  rw [hs.fileOffset, hs.fileSize, hs.size_eq]
  exact Iff.rfl

theorem mapsExactly_of_segmentCode (hs : m.IsSegmentOf n h s) (hc : segmentCode s data = .ok c) :
    MapsExactly s h data c := by
  rcases segmentCode_eq_ok_iff.1 hc with ⟨hroom, hbase, hbytes⟩
  rw [hs.fileOffset, hs.fileSize, hs.size_eq] at hroom hbytes
  have hlength : c.bytes.length = min h.fileSize h.memSize := by
    rw [hbytes, List.length_take, List.length_drop]
    omega
  constructor
  case start => exact hbase
  case stop =>
    -- The memory of the segment has room for everything that the file has for it.
    have hstop := hs.places.stop_eq
    rw [Address.le_iff, c.toNat_stop, hbase, hlength]
    omega
  case length => exact hlength
  case inside =>
    intro a ha
    rcases (c.contains_iff a).1 ha with ⟨hlow, hhigh⟩
    have hindex : a.toNat - s.start.toNat < min h.fileSize h.memSize := by
      rw [hbase] at hlow hhigh
      omega
    have hin : h.offset + (a.toNat - s.start.toNat) < data.length := by omega
    refine ⟨_, List.getElem?_eq_getElem hin, ?_⟩
    calc
      c.read? a = c.bytes[a.toNat - s.start.toNat]? := by rw [Code.read?_of_contains ha, hbase]
      _ = data[h.offset + (a.toNat - s.start.toNat)]? := by
        rw [hbytes, List.getElem?_take_of_lt hindex, List.getElem?_drop]
      _ = some data[h.offset + (a.toNat - s.start.toNat)] := List.getElem?_eq_getElem hin
  case outside =>
    intro a ha
    rw [Code.read?, Code.bytesFrom?_of_not_contains ha, Option.bind_none]

/-! ## One check after the other -/

/-- A number that a word can hold. -/
def word? (n : Nat) : Option Nat :=
  if n < 1 <<< 64 then some n else none

/-- The bytes of a file between two offsets in it, in the right order. -/
def slice? (data : List UInt8) (start stop : Nat) : Option (List UInt8) :=
  if start ≤ stop ∧ stop ≤ data.length then some ((data.drop start).take (stop - start)) else none

/-- The bytes that the file has for a segment. The offset and the length have to be words, and so
has their sum. -/
def fileBytes? (s : Segment) (data : List UInt8) : Option (List UInt8) := do
  let start ← word? s.fileOffset
  let length ← word? (min s.fileSize s.size)
  let stop ← word? (start + length)
  slice? data start stop

def segmentCodeInSteps (s : Segment) (data : List UInt8) : Except ImageError Code :=
  match fileBytes? s data with
  | none => .error (.segmentOutOfFile s.index s.fileOffset s.fileSize)
  | some bytes => (Code.place s.start bytes).mapError .range

theorem word?_eq_some_iff {k : Nat} : word? n = some k ↔ n < 1 <<< 64 ∧ k = n := by
  rw [word?]
  split
  · next hlt =>
    rw [Option.some.injEq, eq_comm]
    exact (and_iff_right hlt).symm
  · next hge => exact iff_of_false (by simp) fun hk => hge hk.1

theorem slice?_eq_some_iff {start stop : Nat} :
    slice? data start stop = some bytes ↔
      start ≤ stop ∧ stop ≤ data.length ∧ bytes = (data.drop start).take (stop - start) := by
  rw [slice?]
  split
  · next hin => simp [hin, eq_comm]
  · next hout =>
    refine iff_of_false (by simp) ?_
    rintro ⟨horder, hin, _⟩
    exact hout ⟨horder, hin⟩

/-- No check but the last can refuse bytes that a file of less than `2 ^ 64` bytes has. -/
theorem fileBytes?_eq_some_iff (hdata : data.length < 1 <<< 64) :
    fileBytes? s data = some bytes ↔
      s.fileOffset + min s.fileSize s.size ≤ data.length ∧
        bytes = (data.drop s.fileOffset).take (min s.fileSize s.size) := by
  have hlength : s.fileOffset + min s.fileSize s.size - s.fileOffset = min s.fileSize s.size := by
    omega
  constructor
  · intro hbytes
    rcases Option.bind_eq_some_iff.1 hbytes with ⟨start, hstart, hrest⟩
    rcases Option.bind_eq_some_iff.1 hrest with ⟨length, hlen, hrest⟩
    rcases Option.bind_eq_some_iff.1 hrest with ⟨stop, hstop, hslice⟩
    cases (word?_eq_some_iff.1 hstart).2
    cases (word?_eq_some_iff.1 hlen).2
    cases (word?_eq_some_iff.1 hstop).2
    rcases slice?_eq_some_iff.1 hslice with ⟨_, hin, hcut⟩
    rw [hlength] at hcut
    exact ⟨hin, hcut⟩
  · rintro ⟨hin, hcut⟩
    -- All three numbers are at most the length of the file.
    have hstart : word? s.fileOffset = some s.fileOffset :=
      word?_eq_some_iff.2 ⟨by omega, rfl⟩
    have hlen : word? (min s.fileSize s.size) = some (min s.fileSize s.size) :=
      word?_eq_some_iff.2 ⟨by omega, rfl⟩
    have hstop : word? (s.fileOffset + min s.fileSize s.size) =
        some (s.fileOffset + min s.fileSize s.size) :=
      word?_eq_some_iff.2 ⟨by omega, rfl⟩
    have hslice : slice? data s.fileOffset (s.fileOffset + min s.fileSize s.size) = some bytes :=
      slice?_eq_some_iff.2 ⟨Nat.le_add_right _ _, hin, by rw [hlength, hcut]⟩
    simp only [fileBytes?, hstart, hlen, hstop, hslice, Option.bind_eq_bind, Option.bind_some]

/-- The comparison of the unbounded sum says the same as all the checks. -/
theorem segmentCodeInSteps_eq (hdata : data.length < 1 <<< 64) :
    segmentCodeInSteps s data = segmentCode s data := by
  by_cases hin : s.fileOffset + min s.fileSize s.size ≤ data.length
  · have hbytes := (fileBytes?_eq_some_iff hdata).2 ⟨hin, rfl⟩
    rw [segmentCodeInSteps, hbytes, segmentCode, if_neg (Nat.not_lt_of_le hin)]
  · have hnone : fileBytes? s data = none := by
      refine Option.eq_none_iff_forall_ne_some.2 fun bytes hbytes => hin ?_
      exact ((fileBytes?_eq_some_iff hdata).1 hbytes).1
    rw [segmentCodeInSteps, hnone, segmentCode_of_short (Nat.lt_of_not_le hin)]

/-! ## One segment -/

/-- What comes of the code of a segment: the bytes of its header at their addresses if the file has
them, otherwise a refusal with the numbers of the header, and nothing else. -/
structure MapsOrRefuses (s : Segment) (h : Elf.ProgramHeader) (data : List UInt8) : Prop where
  ok_iff : (∃ c, segmentCode s data = .ok c) ↔ h.FitsIn data
  maps : ∀ c, segmentCode s data = .ok c → MapsExactly s h data c
  refuses : ¬h.FitsIn data →
    segmentCode s data = .error (.segmentOutOfFile s.index h.offset h.fileSize)
  no_range : ∀ e, segmentCode s data ≠ .error (.range e)
  inSteps : data.length < 1 <<< 64 → segmentCodeInSteps s data = segmentCode s data

theorem segmentCode_of_not_fitsIn (hs : m.IsSegmentOf n h s) (hshort : ¬h.FitsIn data) :
    segmentCode s data = .error (.segmentOutOfFile s.index h.offset h.fileSize) := by
  rw [hs.fitsIn_iff] at hshort
  rw [segmentCode_of_short (Nat.lt_of_not_le hshort), hs.fileOffset, hs.fileSize]

theorem exists_segmentCode_of_fitsIn (hs : m.IsSegmentOf n h s) (hfits : h.FitsIn data) :
    ∃ c, segmentCode s data = .ok c := by
  rcases exists_segmentCode (Nat.not_lt_of_le (hs.fitsIn_iff.1 hfits)) with ⟨c, hc, _⟩
  exact ⟨c, hc⟩

theorem fitsIn_of_segmentCode (hs : m.IsSegmentOf n h s) (hc : segmentCode s data = .ok c) :
    h.FitsIn data :=
  hs.fitsIn_iff.2 (segmentCode_eq_ok_iff.1 hc).1

theorem mapsOrRefuses (hs : m.IsSegmentOf n h s) : MapsOrRefuses s h data where
  ok_iff := ⟨fun ⟨_, hc⟩ => fitsIn_of_segmentCode hs hc, exists_segmentCode_of_fitsIn hs⟩
  maps _ hc := mapsExactly_of_segmentCode hs hc
  refuses := segmentCode_of_not_fitsIn hs
  no_range e he := by
    by_cases hfits : h.FitsIn data
    · rcases exists_segmentCode_of_fitsIn hs hfits with ⟨c, hc⟩
      rw [hc] at he
      cases he
    · rw [segmentCode_of_not_fitsIn hs hfits] at he
      cases he
  inSteps := segmentCodeInSteps_eq

end Image

/-! ## All executable segments -/

namespace Survey

variable {m : Image} {data : List UInt8}

/-- What fails has a first element that fails. -/
theorem exists_first_of_mapM_pairs {ε α β : Type} {f : α → Except ε β} {l : List α} {e : ε}
    (h : (l.mapM fun a => do
      let b ← f a
      return (a, b)) = .error e) :
    ∃ pre a post, l = pre ++ a :: post ∧ (∀ x ∈ pre, ∃ b, f x = .ok b) ∧ f a = .error e := by
  induction l with
  | nil => cases h
  | cons a l ih =>
    rw [List.mapM_cons] at h
    cases ha : f a with
    | error e' =>
      rw [ha] at h
      cases h
      exact ⟨[], a, l, rfl, by simp, ha⟩
    | ok b =>
      rw [ha] at h
      -- Behind an element that does not fail, what fails is in the rest.
      rcases Except.bind_eq_error_iff.1 h with hhead | ⟨_, _, htail⟩
      · cases hhead
      · rcases Except.bind_eq_error_iff.1 htail with hrest | ⟨_, _, hcons⟩
        · rcases ih hrest with ⟨pre, x, post, rfl, hpre, hx⟩
          refine ⟨a :: pre, x, post, rfl, ?_, hx⟩
          intro y hy
          rcases List.mem_cons.1 hy with rfl | hmem
          · exact ⟨b, ha⟩
          · exact hpre y hmem
        · cases hcons

/-- The file has the bytes of entry `n`. -/
def EntryFits (m : Image) (data : List UInt8) (n : Nat) : Prop :=
  ∀ h, m.headers[n]? = some h → h.FitsIn data

/-- What comes of a survey: the executable segments with their code if the file has the bytes of
all, otherwise the refusal of the first in the table for which it has not. -/
structure MapsAllOrRefuses (m : Image) (data : List UInt8) : Prop where
  ok_iff : (∃ s, ofImage m data = .ok s) ↔ ∀ t ∈ m.executableSegments, EntryFits m data t.index
  parts : ∀ s, ofImage m data = .ok s → s.parts.map Prod.fst = m.executableSegments ∧
    ∀ part ∈ s.parts, Image.segmentCode part.1 data = .ok part.2
  refuses : (¬∀ t ∈ m.executableSegments, EntryFits m data t.index) →
    ∃ t ∈ m.executableSegments, ∃ h, m.headers[t.index]? = some h ∧ ¬h.FitsIn data ∧
      (∀ u ∈ m.executableSegments, u.index < t.index → EntryFits m data u.index) ∧
      ofImage m data = .error (.segmentOutOfFile t.index h.offset h.fileSize)

theorem entryFits_of_segmentCode {t : Segment} {c : Code} (ht : t ∈ m.executableSegments)
    (hc : Image.segmentCode t data = .ok c) : EntryFits m data t.index := by
  rcases Image.mem_executableSegments_iff.1 ht with ⟨h, hs, _⟩
  intro h' hheader
  cases hs.header.symm.trans hheader
  exact Image.fitsIn_of_segmentCode hs hc

/-- If there is no survey, it is for the first segment in the table whose bytes are not there. -/
theorem first_of_ofImage_error {e : ImageError} (he : ofImage m data = .error e) :
    ∃ t ∈ m.executableSegments, ∃ h, m.headers[t.index]? = some h ∧ ¬h.FitsIn data ∧
      (∀ u ∈ m.executableSegments, u.index < t.index → EntryFits m data u.index) ∧
      e = .segmentOutOfFile t.index h.offset h.fileSize := by
  rcases Except.bind_eq_error_iff.1 he with hparts | ⟨_, _, hdone⟩
  · rcases exists_first_of_mapM_pairs hparts with ⟨pre, t, post, hsplit, hpre, ht⟩
    have hmem : t ∈ m.executableSegments := hsplit ▸ List.mem_append_right _ List.mem_cons_self
    rcases Image.mem_executableSegments_iff.1 hmem with ⟨h, hs, _⟩
    have hshort : ¬h.FitsIn data := by
      intro hfits
      rcases Image.exists_segmentCode_of_fitsIn hs hfits with ⟨c, hc⟩
      rw [hc] at ht
      cases ht
    refine ⟨t, hmem, h, hs.header, hshort, ?_, ?_⟩
    · intro u hu hlt
      -- Indices grow, so a smaller one is in front.
      have hindices := m.pairwise_index_executableSegments
      rw [hsplit, List.map_append, List.map_cons] at hindices
      have hbehind := (List.pairwise_cons.1 (List.pairwise_append.1 hindices).2.1).1
      rcases List.mem_append.1 (hsplit ▸ hu) with hfront | hback
      · rcases hpre u hfront with ⟨c, hc⟩
        exact entryFits_of_segmentCode hu hc
      · rcases List.mem_cons.1 hback with rfl | hpost
        · exact absurd hlt (Nat.lt_irrefl _)
        · exact absurd hlt (Nat.lt_asymm (hbehind u.index (List.mem_map_of_mem hpost)))
    · rw [Image.segmentCode_of_not_fitsIn hs hshort] at ht
      cases ht
      rfl
  · cases hdone

theorem entryFits_of_ofImage {s : Survey} (hs : ofImage m data = .ok s) :
    ∀ t ∈ m.executableSegments, EntryFits m data t.index := by
  intro t ht
  rcases exists_part_of_mem_executableSegments hs ht with ⟨c, hpart⟩
  exact entryFits_of_segmentCode ht ((parts_of_ofImage hs).2 _ hpart)

theorem mapsAllOrRefuses (m : Image) (data : List UInt8) : MapsAllOrRefuses m data := by
  constructor
  case ok_iff =>
    constructor
    · rintro ⟨s, hs⟩
      exact entryFits_of_ofImage hs
    · intro hfits
      cases hsurvey : ofImage m data with
      | ok s => exact ⟨s, rfl⟩
      | error e =>
        rcases first_of_ofImage_error hsurvey with ⟨t, ht, h, hheader, hshort, _⟩
        exact absurd (hfits t ht h hheader) hshort
  case parts => exact fun s hs => parts_of_ofImage hs
  case refuses =>
    intro hunfit
    cases hsurvey : ofImage m data with
    | ok s => exact absurd (entryFits_of_ofImage hsurvey) hunfit
    | error e =>
      rcases first_of_ofImage_error hsurvey with ⟨t, ht, h, hheader, hshort, hfirst, rfl⟩
      exact ⟨t, ht, h, hheader, hshort, hfirst, rfl⟩

end Survey

/-- The code of every segment is exactly what its header says, or it is refused, and so is the
survey of the executable segments with the first of them that is. -/
theorem Image.segments_map_or_refuse (m : Image) (data : List UInt8) :
    (∀ s ∈ m.segments, ∃ h, m.headers[s.index]? = some h ∧ MapsOrRefuses s h data) ∧
      Survey.MapsAllOrRefuses m data := by
  refine ⟨?_, Survey.mapsAllOrRefuses m data⟩
  intro s hs
  rcases mem_segments_iff.1 hs with ⟨h, hs⟩
  exact ⟨h, hs.header, mapsOrRefuses hs⟩

namespace Image

/-- Three executable entries: the file has the bytes of the first. The offset and the size of the
second have a sum that no word can hold, and the third begins behind the end of the file. -/
def cutImage : Image where
  base := .ofNat 0x400000
  loadBias := 0
  headers := [⟨1, 5, 1, 0, 2, 4⟩, ⟨1, 5, 0xffffffffffffffff, 0x1000, 8, 8⟩,
    ⟨1, 5, 9, 0x2000, 1, 1⟩]

def cutData : List UInt8 :=
  [0x55, 0x90, 0xc3]

/-- The first entry is mapped, and the second is the first that is refused. -/
theorem segments_map_or_refuse_cutImage :
    ∃ s t u, cutImage.segments = [s, t, u] ∧ (∃ c, segmentCode s cutData = .ok c) ∧
      segmentCode t cutData = .error (.segmentOutOfFile 1 0xffffffffffffffff 8) ∧
      Survey.ofImage cutImage cutData = .error (.segmentOutOfFile 1 0xffffffffffffffff 8) := by
  rcases segments_map_or_refuse cutImage cutData with ⟨hall, hsurvey⟩
  refine ⟨_, _, _, rfl, ?_, ?_, ?_⟩
  · rcases hall _ List.mem_cons_self with ⟨h, hheader, houtcome⟩
    cases hheader
    exact houtcome.ok_iff.2 (by decide)
  · rcases hall _ (List.mem_cons_of_mem _ List.mem_cons_self) with ⟨h, hheader, houtcome⟩
    cases hheader
    exact houtcome.refuses (by decide)
  · have hunfit : ¬∀ t ∈ cutImage.executableSegments, Survey.EntryFits cutImage cutData t.index :=
      fun hfit => absurd (hfit _ (List.mem_cons_of_mem _ List.mem_cons_self) _ rfl) (by decide)
    rcases hsurvey.refuses hunfit with ⟨t, ht, h, hheader, hshort, hfirst, herror⟩
    rcases List.mem_cons.1 ht with rfl | ht
    · cases hheader
      exact absurd (by decide) hshort
    rcases List.mem_cons.1 ht with rfl | ht
    · cases hheader
      exact herror
    · -- In front of the third entry the second one would have to fit.
      cases List.mem_singleton.1 ht
      have hsecond := hfirst _ (List.mem_cons_of_mem _ List.mem_cons_self) (by decide) _ rfl
      exact absurd hsecond (by decide)

end Image

end CodeSurvey
