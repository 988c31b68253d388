import CodeSurvey.Proofs.Decode.FrontPart
import CodeSurvey.Proofs.Image.Placement
import CodeSurvey.Proofs.Image.SweptHits
import CodeSurvey.Proofs.Sweep.Rounds

/-!
# Where hits come from

Every hit of a survey is traced back to the file: to an entry of the program header table, and to
bytes between the offsets that the entry names.

* `Image.Maps m data n h start stop` : entry `n` is executable, with memory from `start` to `stop`
  and all its file bytes in the file;
* `Elf.ProgramHeader.fileBytes` : these bytes, or the last of them;
* `Hit.Reports` : what a hit says about an instruction at its address;
* `Survey.hits_provenance` : each hit lies in the file's part of such an entry, and calls and
  address loads report the instruction that is there.
-/

namespace CodeSurvey

/-- Entry `n` of the table is the header `h`. It is loaded and executable, its memory goes from
`start` to `stop`, and the file holds its bytes. -/
structure Image.Maps (m : Image) (data : List UInt8) (n : Nat) (h : Elf.ProgramHeader)
    (start stop : Nat) : Prop where
  header : m.headers[n]? = some h
  execute : h.flags.testBit 0 = true
  places : m.Places h start stop
  inFile : h.offset + min h.fileSize h.memSize ≤ data.length

/-- The bytes of an entry behind its first `skip`. An entry has the bytes from its offset on, as
many as its part of the file has and its memory takes. -/
def Elf.ProgramHeader.fileBytes (h : Elf.ProgramHeader) (data : List UInt8) (skip : Nat) :
    List UInt8 :=
  (data.take (h.offset + min h.fileSize h.memSize)).drop (h.offset + skip)

/-- The hit lies in the file's part of an entry whose memory begins at `start`. Decoding the file's
bytes there gives an instruction, whose length and destination the hit has. -/
structure Hit.Reports (k : Hit) (data : List UInt8) (h : Elf.ProgramHeader) (start : Nat)
    (i : Insn) : Prop where
  above : start ≤ k.address.toNat
  below : k.address.toNat + k.length ≤ start + min h.fileSize h.memSize
  length_pos : 1 ≤ k.length
  length_le : k.length ≤ 15
  decoded : ∃ c, Code.place k.address (h.fileBytes data (k.address.toNat - start)) = .ok c ∧
    c.decode k.address = .ok i
  length : k.length = i.length
  target : k.target = i.callTarget?

/-! ## Entries of parts -/

namespace Survey

variable {m : Image} {data : List UInt8} {s : Survey} {o : ScanOptions} {q : Query} {k : Hit}

/-- The code of a part is what the file holds for an executable entry. -/
theorem exists_maps_of_part (h : ofImage m data = .ok s) {segment : Segment} {c : Code}
    (hpart : (segment, c) ∈ s.parts) :
    ∃ header, m.Maps data segment.index header segment.start.toNat segment.stop.toNat ∧
      c.base = segment.start ∧ c.bytes = header.fileBytes data 0 := by
  rcases Image.mem_executableSegments_iff.1 (mem_executableSegments_of_part h hpart) with
    ⟨header, hs, hexecute⟩
  rcases Image.segmentCode_eq_ok_iff.1 ((parts_of_ofImage h).2 _ hpart) with
    ⟨hlong, hbase, hbytes⟩
  rw [hs.fileOffset, hs.fileSize, hs.size_eq] at hlong hbytes
  refine ⟨header, ⟨hs.header, hexecute, hs.places, hlong⟩, hbase, ?_⟩
  rw [hbytes, Elf.ProgramHeader.fileBytes, Nat.add_zero, List.drop_take, Nat.add_sub_cancel_left]

/-- Every hit is one of the search in some part. -/
theorem exists_part_of_mem_hits (hk : k ∈ (s.withOptions o).hits q) :
    ∃ segment c, (segment, c) ∈ s.parts ∧ k.segment = segment.index ∧
      k ∈ q.hitsIn o segment.index c := by
  rcases List.mem_flatMap.1 (List.mem_mergeSort.1 hk) with ⟨⟨segment, c⟩, hpart, hin⟩
  exact ⟨segment, c, hpart, Query.segment_of_mem_hitsFrom hin, hin⟩

theorem length_fileBytes {n : Nat} {header : Elf.ProgramHeader} {start stop : Nat}
    (hmaps : m.Maps data n header start stop) :
    (header.fileBytes data 0).length = min header.fileSize header.memSize := by
  have hlong := hmaps.inFile
  rw [Elf.ProgramHeader.fileBytes, List.length_drop, List.length_take]
  omega

end Survey

/-! ## Instructions of sweeps -/

namespace Code

/-- What is decoded in some code is decoded from what lies behind the address alone. -/
theorem place_decode_of_decode {c : Code} {a : Address} {i : Insn} (h : c.decode a = .ok i) :
    ∃ d, place a (c.bytes.drop (a.toNat - c.base.toNat)) = .ok d ∧ d.decode a = .ok i := by
  rcases (c.contains_iff a).1 (contains_of_decode h) with ⟨hlow, hhigh⟩
  have hcfits := c.fits
  have hfits : a.toNat + (c.bytes.drop (a.toNat - c.base.toNat)).length < 1 <<< 64 := by
    rw [List.length_drop]
    omega
  refine ⟨⟨a, _, hfits⟩, by rw [place, dif_pos hfits], ?_⟩
  have hne : (⟨a, _, hfits⟩ : Code).isEmpty = false := by
    refine isEmpty_eq_false_iff.2 ?_
    rw [List.length_drop]
    omega
  rw [decode_base hne]
  exact decodeBytes_of_decode h

theorem decode_of_mem_linearInstructions {c : Code} {p : Resync} {i : Insn}
    (h : i ∈ c.linearInstructions p) : c.decode i.start = .ok i := by
  rcases List.mem_filterMap.1 h with ⟨step, hstep, hi⟩
  cases step with
  | undecodable u => simp at hi
  | decoded j =>
    cases hi
    rcases List.append_of_mem hstep with ⟨pre, post, hsplit⟩
    rcases linearSweep_eq_cons (linearSweep_of_append hsplit) with
      ⟨_, _, _, ⟨j, hj, hdecode, _⟩ | ⟨e, hj, _⟩⟩
    · cases hj
      exact hdecode
    · cases hj

end Code

namespace Survey

variable {m : Image} {data : List UInt8} {s : Survey} {o : ScanOptions} {q : Query} {k : Hit}

/-- A hit that was made from an instruction of a sweep comes from a part whose code has the
instruction. -/
theorem exists_decode_of_mem_hits {kind : HitKind} {wanted : Insn → Bool}
    (hhits : ∀ segment c, q.hitsIn o segment c =
      ((c.linearInstructions o.resync).filter wanted).map (Hit.ofInsn kind segment))
    (hk : k ∈ (s.withOptions o).hits q) :
    ∃ segment c i, (segment, c) ∈ s.parts ∧ c.decode i.start = .ok i ∧ wanted i = true ∧
      k = .ofInsn kind segment.index i := by
  rcases exists_part_of_mem_hits hk with ⟨segment, c, hpart, _, hin⟩
  rw [hhits] at hin
  rcases List.mem_map.1 hin with ⟨i, hi, rfl⟩
  rcases List.mem_filter.1 hi with ⟨hi, hwanted⟩
  exact ⟨segment, c, i, hpart, Code.decode_of_mem_linearInstructions hi, hwanted, rfl⟩

/-- It reports the instruction. -/
theorem exists_reports_of_mem_hits (h : ofImage m data = .ok s) {kind : HitKind}
    {wanted : Insn → Bool}
    (hhits : ∀ segment c, q.hitsIn o segment c =
      ((c.linearInstructions o.resync).filter wanted).map (Hit.ofInsn kind segment))
    (hk : k ∈ (s.withOptions o).hits q) :
    k.kind = kind ∧ ∃ header start stop i, m.Maps data k.segment header start stop ∧
      k.Reports data header start i ∧ wanted i = true := by
  rcases exists_decode_of_mem_hits hhits hk with ⟨segment, c, i, hpart, hdecode, hwanted, rfl⟩
  rcases exists_maps_of_part h hpart with ⟨header, hmaps, hbase, hbytes⟩
  rcases (c.contains_iff i.start).1 (Code.contains_of_decode hdecode) with ⟨hlow, _⟩
  rcases Insn.length_of_decodeBytes (Code.decodeBytes_of_decode hdecode) with ⟨hpos, hmax, hfits⟩
  rcases Code.place_decode_of_decode hdecode with ⟨d, hplace, hd⟩
  have hstart : c.base.toNat = segment.start.toNat := congrArg Address.toNat hbase
  have hlength : c.bytes.length = min header.fileSize header.memSize := by
    rw [hbytes]
    exact length_fileBytes hmaps
  rw [List.length_drop] at hfits
  refine ⟨rfl, header, _, _, i, hmaps, ⟨?_, ?_, hpos, hmax, ⟨d, ?_, hd⟩, rfl, rfl⟩, hwanted⟩
  · show segment.start.toNat ≤ i.start.toNat
    omega
  · show i.start.toNat + i.length ≤ segment.start.toNat + min header.fileSize header.memSize
    omega
  · rw [hbytes, hstart, Elf.ProgramHeader.fileBytes, List.drop_drop, Nat.add_zero] at hplace
    exact hplace

/-- Every hit lies in the bytes that the file holds for an executable, loaded entry. A call or an
address load is in the file there as an instruction of the kind that was asked for. -/
theorem hits_provenance (h : ofImage m data = .ok s) (o : ScanOptions) :
    (∀ target : Option Address, ∀ k ∈ (s.withOptions o).hits (.calls target),
      k.kind = .call ∧ ∃ header start stop i, m.Maps data k.segment header start stop ∧
        k.Reports data header start i ∧ (i.kind = .nearCall ∨ i.kind = .indirectCall) ∧
          ∀ a ∈ target, k.target = some a) ∧
      (∀ displacement : Int, ∀ k ∈ (s.withOptions o).hits (.leas displacement),
        k.kind = .lea ∧ ∃ header start stop i, m.Maps data k.segment header start stop ∧
          k.Reports data header start i ∧ i.kind = .lea ∧
            (i.mode? = some .indirectDisp8 ∨ i.mode? = some .indirectDisp32) ∧
              i.displacement = displacement) ∧
      (∀ mode : PrologueMode, ∀ k ∈ (s.withOptions o).hits (.prologues mode),
        ∃ header start stop, m.Maps data k.segment header start stop ∧
          start ≤ k.address.toNat ∧
            k.address.toNat < start + min header.fileSize header.memSize) := by
  refine ⟨?_, ?_, ?_⟩
  · intro target k hk
    rcases exists_reports_of_mem_hits h (Query.hitsIn_calls o target) hk with
      ⟨hkind, header, start, stop, i, hmaps, hreports, hwanted⟩
    rcases Insn.isCallTo_iff.1 hwanted with ⟨hcall, htarget⟩
    rw [← hreports.target] at htarget
    exact ⟨hkind, header, start, stop, i, hmaps, hreports, hcall, htarget⟩
  · intro displacement k hk
    rcases exists_reports_of_mem_hits h (Query.hitsIn_leas o displacement) hk with
      ⟨hkind, header, start, stop, i, hmaps, hreports, hwanted⟩
    exact ⟨hkind, header, start, stop, i, hmaps, hreports, Insn.isLeaWith_iff.1 hwanted⟩
  · intro mode k hk
    rcases exists_part_of_mem_hits hk with ⟨segment, c, hpart, hindex, hin⟩
    rcases exists_maps_of_part h hpart with ⟨header, hmaps, hbase, hbytes⟩
    rcases Query.mem_hitsIn_bounds hin with ⟨hlow, hhigh⟩
    have hlength := length_fileBytes hmaps
    rw [Code.toNat_stop, hbytes, hlength, hbase] at hhigh
    rw [hbase] at hlow
    rw [hindex]
    exact ⟨header, _, _, hmaps, hlow, hhigh⟩

/-- The call through a slot in the upper part of the file of `sampleImage`. -/
def sampleHit : Hit :=
  ⟨.call, .ofNat 0x401004, 6, 2, some (.ofNat 0x402000)⟩

theorem hits_provenance_sample :
    ∃ s, ofImage sampleImage sampleData = .ok s ∧ sampleHit ∈ (s.withOptions {}).hits (.calls none) ∧
      ∃ header start stop i, sampleImage.Maps sampleData 2 header start stop ∧
        sampleHit.Reports sampleData header start i ∧
          (i.kind = .nearCall ∨ i.kind = .indirectCall) := by
  have hsurvey : ofImage sampleImage sampleData = .ok ⟨defaultOptions,
      [(⟨0, ⟨.ofNat 0x402000, .ofNat 0x402008⟩, ⟨true, false, true⟩, 0, 8⟩,
          ⟨.ofNat 0x402000, sampleData.take 8, by decide⟩),
        (⟨2, ⟨.ofNat 0x401000, .ofNat 0x401010⟩, ⟨true, false, true⟩, 8, 12⟩,
          ⟨.ofNat 0x401000, sampleData.drop 8, by decide⟩)]⟩ := rfl
  have hin : sampleHit ∈ (Query.calls none).hitsIn {} 2
      ⟨.ofNat 0x401000, sampleData.drop 8, by decide⟩ := by
    decide
  have hhit := ((mem_hits_segment_iff hsurvey {} (.calls none)
    (List.mem_cons_of_mem _ List.mem_cons_self)).2 hin).1
  rcases (hits_provenance hsurvey {}).1 none sampleHit hhit with
    ⟨_, header, start, stop, i, hmaps, hreports, hcall, _⟩
  exact ⟨_, hsurvey, hhit, header, start, stop, i, hmaps, hreports, hcall⟩

end Survey

end CodeSurvey
