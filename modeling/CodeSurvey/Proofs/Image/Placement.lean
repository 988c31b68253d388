import CodeSurvey.Image.Survey
import CodeSurvey.Proofs.Address

/-!
# Placed segments

Where the memory of a program header lies, said with the numbers of the table and no address that
could wrap around, and which segment and which code that makes.

* `Image.Places m h start stop` : the entry is loaded, and its memory goes from `start` to `stop`;
* `Image.IsSegmentOf m n h s` : `s` is the segment of entry `n`, which is `h`;
* `Image.segmentAt?_eq_some_iff`, `mem_segments_iff` : the segments are those of the loaded entries
  that end at an address;
* `Image.segmentCode_eq_ok_iff` : the code of a segment is what the file has for it.
-/

namespace CodeSurvey

/-- The memory of a loaded entry goes from `start` to `stop`, and `stop` is still an address. -/
structure Image.Places (m : Image) (h : Elf.ProgramHeader) (start stop : Nat) : Prop where
  load : h.kind = 1
  above : m.loadBias ≤ h.vaddr
  start_eq : start = m.base.toNat + (h.vaddr - m.loadBias)
  stop_eq : stop = start + h.memSize
  fits : stop ≤ 2 ^ 64 - 1

/-- The segment of entry `n`, which is the header `h`. -/
structure Image.IsSegmentOf (m : Image) (n : Nat) (h : Elf.ProgramHeader) (s : Segment) : Prop where
  header : m.headers[n]? = some h
  index : s.index = n
  places : m.Places h s.start.toNat s.stop.toNat
  protection : s.protection = ⟨h.flags.testBit 2, h.flags.testBit 1, h.flags.testBit 0⟩
  fileOffset : s.fileOffset = h.offset
  fileSize : s.fileSize = h.fileSize

theorem Elf.ProgramHeader.isLoad_iff {h : Elf.ProgramHeader} : h.isLoad = true ↔ h.kind = 1 :=
  beq_iff_eq

theorem Address.add?_eq_some_iff {a b : Address} {n : Nat} :
    a.add? n = some b ↔ b.toNat = a.toNat + n := by
  constructor
  · exact toNat_add?
  · intro hb
    have hlt : a.toNat + n < 1 <<< 64 := hb ▸ b.toNat_lt
    have hsum : a + n = b := toNat_inj ((toNat_add_of_lt hlt).trans hb.symm)
    rw [add?, if_pos hlt, hsum]

theorem AddressRange.ofSize_eq_ok_iff {start : Address} {size : Nat} {r : AddressRange} :
    ofSize start size = .ok r ↔ r.start = start ∧ r.stop.toNat = start.toNat + size := by
  rw [ofSize, ← Address.add?_eq_some_iff]
  cases hadd : start.add? size with
  | none => simp
  | some stop =>
    rcases r with ⟨start', stop'⟩
    simp [eq_comm]

namespace Image

variable {m : Image} {h : Elf.ProgramHeader} {n : Nat} {s : Segment}

/-! ## Segments of entries -/

theorem runtimeAddress?_eq_some_iff {vaddr : Nat} {a : Address} :
    m.runtimeAddress? vaddr = some a ↔
      m.loadBias ≤ vaddr ∧ a.toNat = m.base.toNat + (vaddr - m.loadBias) := by
  rw [runtimeAddress?]
  split
  · next habove => simp [habove, Address.add?_eq_some_iff]
  · next hbelow => simp [hbelow]

theorem rangeOf?_eq_some_iff {r : AddressRange} :
    m.rangeOf? h = some r ↔
      m.loadBias ≤ h.vaddr ∧ r.start.toNat = m.base.toNat + (h.vaddr - m.loadBias) ∧
        r.stop.toNat = r.start.toNat + h.memSize := by
  have hsize (start : Address) : (AddressRange.ofSize start h.memSize).toOption = some r ↔
      r.start = start ∧ r.stop.toNat = start.toNat + h.memSize := by
    rw [← AddressRange.ofSize_eq_ok_iff]
    cases AddressRange.ofSize start h.memSize <;> simp [Except.toOption]
  rw [rangeOf?, Option.bind_eq_some_iff]
  constructor
  · rintro ⟨start, hstart, hr⟩
    rcases (hsize start).1 hr with ⟨rfl, hstop⟩
    rcases runtimeAddress?_eq_some_iff.1 hstart with ⟨habove, hplace⟩
    exact ⟨habove, hplace, hstop⟩
  · rintro ⟨habove, hplace, hstop⟩
    exact ⟨r.start, runtimeAddress?_eq_some_iff.2 ⟨habove, hplace⟩, (hsize r.start).2 ⟨rfl, hstop⟩⟩

theorem places_iff {r : AddressRange} :
    m.Places h r.start.toNat r.stop.toNat ↔ h.isLoad = true ∧ m.rangeOf? h = some r := by
  rw [Elf.ProgramHeader.isLoad_iff, rangeOf?_eq_some_iff]
  constructor
  · intro hp
    exact ⟨hp.load, hp.above, hp.start_eq, hp.stop_eq⟩
  · rintro ⟨hload, habove, hstart, hstop⟩
    -- The end of a range is an address, so there is nothing else to check.
    have hfits := r.stop.toNat_lt
    exact ⟨hload, habove, hstart, hstop, by omega⟩

/-- The segment of an entry is there exactly if the entry is loaded and its memory ends at an
address. -/
theorem segmentAt?_eq_some_iff : m.segmentAt? n = some s ↔ ∃ h, m.IsSegmentOf n h s := by
  have hsegment (h : Elf.ProgramHeader) (r : AddressRange) :
      m.headers[n]? = some h → h.isLoad = true → m.rangeOf? h = some r →
        m.segmentAt? n = some ⟨n, r, .ofBits h.flags, h.offset, h.fileSize⟩ := by
    intro hheader hload hrange
    simp [segmentAt?, hheader, hload, hrange]
  constructor
  · intro hs
    rcases Option.bind_eq_some_iff.1 hs with ⟨h, hheader, hrest⟩
    split at hrest
    · next hload =>
      rcases Option.bind_eq_some_iff.1 hrest with ⟨r, hrange, hresult⟩
      cases hresult
      exact ⟨h, hheader, rfl, places_iff.2 ⟨hload, hrange⟩, rfl, rfl, rfl⟩
    · cases hrest
  · rintro ⟨h, hs⟩
    rcases places_iff.1 hs.places with ⟨hload, hrange⟩
    rw [hsegment h s.range hs.header hload hrange]
    rcases s with ⟨index, range, protection, fileOffset, fileSize⟩
    rcases hs with ⟨_, rfl, _, rfl, rfl, rfl⟩
    rfl

theorem IsSegmentOf.size_eq (hs : m.IsSegmentOf n h s) : s.size = h.memSize := by
  have hstop := hs.places.stop_eq
  show s.stop.toNat - s.start.toNat = h.memSize
  omega

/-- A loaded entry is in one place only. -/
theorem Places.unique {start stop start' stop' : Nat} (hp : m.Places h start stop)
    (hp' : m.Places h start' stop') : start' = start ∧ stop' = stop := by
  have hstart := hp.start_eq
  have hstart' := hp'.start_eq
  have hstop := hp.stop_eq
  have hstop' := hp'.stop_eq
  omega

/-- A loaded entry whose memory ends at an address has a segment, and it lies there. -/
theorem Places.exists_segment {start stop : Nat} (hp : m.Places h start stop)
    (hheader : m.headers[n]? = some h) :
    ∃ s, m.IsSegmentOf n h s ∧ s.start.toNat = start ∧ s.stop.toNat = stop := by
  have hstop := hp.stop_eq
  have hfits := hp.fits
  have hstart : (Address.ofNat start).toNat = start := Address.toNat_ofNat_of_lt (by omega)
  have hend : (Address.ofNat stop).toNat = stop := Address.toNat_ofNat_of_lt (by omega)
  refine ⟨⟨n, ⟨.ofNat start, .ofNat stop⟩, .ofBits h.flags, h.offset, h.fileSize⟩,
    ⟨hheader, rfl, ?_, rfl, rfl, rfl⟩, hstart, hend⟩
  show m.Places h (Address.ofNat start).toNat (Address.ofNat stop).toNat
  rw [hstart, hend]
  exact hp

theorem mem_segments_iff : s ∈ m.segments ↔ ∃ h, m.IsSegmentOf s.index h s := by
  have hindex (n : Nat) : m.segmentAt? n = some s → n = s.index ∧ n < m.headers.length := by
    intro hs
    rcases segmentAt?_eq_some_iff.1 hs with ⟨h, hs⟩
    exact ⟨hs.index.symm, (List.getElem?_eq_some_iff.1 hs.header).1⟩
  rw [segments, List.mem_filterMap, ← segmentAt?_eq_some_iff]
  constructor
  · rintro ⟨n, _, hs⟩
    rw [← (hindex n hs).1]
    exact hs
  · intro hs
    exact ⟨s.index, List.mem_range.2 (hindex _ hs).2, hs⟩

theorem mem_executableSegments_iff :
    s ∈ m.executableSegments ↔ ∃ h, m.IsSegmentOf s.index h s ∧ h.flags.testBit 0 = true := by
  rw [executableSegments, List.mem_filter, mem_segments_iff]
  constructor
  · rintro ⟨⟨h, hs⟩, hexecute⟩
    refine ⟨h, hs, ?_⟩
    simpa [Segment.isExecutable, hs.protection] using hexecute
  · rintro ⟨h, hs, hexecute⟩
    refine ⟨⟨h, hs⟩, ?_⟩
    simpa [Segment.isExecutable, hs.protection] using hexecute

/-! ## Code of segments -/

theorem segmentCode_of_short {s : Segment} {data : List UInt8}
    (hshort : data.length < s.fileOffset + min s.fileSize s.size) :
    segmentCode s data = .error (.segmentOutOfFile s.index s.fileOffset s.fileSize) :=
  if_pos hshort

/-- What the file has for a segment fits where the segment lies. -/
theorem exists_segmentCode {s : Segment} {data : List UInt8}
    (hlong : ¬data.length < s.fileOffset + min s.fileSize s.size) :
    ∃ c, segmentCode s data = .ok c ∧ c.base = s.start ∧
      c.bytes = (data.drop s.fileOffset).take (min s.fileSize s.size) := by
  have htake := List.length_take_le (min s.fileSize s.size) (data.drop s.fileOffset)
  have hsize : s.size = s.stop.toNat - s.start.toNat := rfl
  have hstart := s.start.toNat_lt
  have hstop := s.stop.toNat_lt
  have hfits : s.start.toNat + ((data.drop s.fileOffset).take (min s.fileSize s.size)).length <
      1 <<< 64 := by
    omega
  refine ⟨⟨s.start, _, hfits⟩, ?_, rfl, rfl⟩
  rw [segmentCode, if_neg hlong, Code.place, dif_pos hfits]
  rfl

/-- The code of a segment is there exactly if the file is long enough. It is what the file has from
the segment's offset on, as long as both the file's part and the memory go. -/
theorem segmentCode_eq_ok_iff {data : List UInt8} {c : Code} :
    segmentCode s data = .ok c ↔
      s.fileOffset + min s.fileSize s.size ≤ data.length ∧ c.base = s.start ∧
        c.bytes = (data.drop s.fileOffset).take (min s.fileSize s.size) := by
  by_cases hshort : data.length < s.fileOffset + min s.fileSize s.size
  · simp [segmentCode_of_short hshort, Nat.not_le_of_lt hshort]
  · rcases exists_segmentCode hshort with ⟨found, hfound, hbase, hbytes⟩
    rw [hfound, Except.ok.injEq]
    constructor
    · rintro rfl
      exact ⟨Nat.le_of_not_lt hshort, hbase, hbytes⟩
    · rintro ⟨_, hbase', hbytes'⟩
      exact Code.eq_of_bytes (hbase.trans hbase'.symm) (hbytes.trans hbytes'.symm)

end Image

end CodeSurvey
