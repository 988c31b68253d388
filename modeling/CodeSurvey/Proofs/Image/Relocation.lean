import CodeSurvey.Proofs.Image.LinkAddress
import CodeSurvey.Proofs.Sweep.Relocation
import Mathlib.Data.List.Forall2

/-!
# Relocated images

One file placed at two bases, whatever reads its headers. If no loaded segment reaches around the
end of the address space, the two images differ by the distance between the bases and in nothing
else.

* `Image.isMoved_of_parseWith` : the base is all that two images of a file differ in;
* `Image.IsMoved.segments` : their segments, in order, lie that far apart;
* `Survey.ofImage_agree` : surveys of them hold code that lies that far apart, or fail alike;
* `Survey.segments_hits_isMoved` : so do all hits, in order, with the destinations of calls.
-/

namespace CodeSurvey

/-! ## Results in step -/

/-- Both fail with the same error, or both succeed, with results that are related. -/
inductive Except.Agree {ε α β : Type} (R : α → β → Prop) : Except ε α → Except ε β → Prop
  | error (e : ε) : Except.Agree R (.error e) (.error e)
  | ok {a : α} {b : β} (h : R a b) : Except.Agree R (.ok a) (.ok b)

section

variable {ε α β γ δ : Type} {R : α → β → Prop} {S : γ → δ → Prop}

theorem Except.Agree.imp {R' : α → β → Prop} {x : Except ε α} {y : Except ε β}
    (h : Except.Agree R x y) (himp : ∀ a b, R a b → R' a b) : Except.Agree R' x y := by
  cases h with
  | error e => exact .error e
  | ok hab => exact .ok (himp _ _ hab)

theorem Except.Agree.bind {x : Except ε α} {y : Except ε β} {f : α → Except ε γ}
    {g : β → Except ε δ} (h : Except.Agree R x y)
    (hnext : ∀ a b, R a b → Except.Agree S (f a) (g b)) :
    Except.Agree S (x >>= f) (y >>= g) := by
  cases h with
  | error e => exact .error e
  | ok hab => exact hnext _ _ hab

theorem Except.Agree.mapM {f : α → Except ε γ} {g : β → Except ε δ} {as : List α} {bs : List β}
    (h : List.Forall₂ R as bs) (hstep : ∀ a b, R a b → Except.Agree S (f a) (g b)) :
    Except.Agree (List.Forall₂ S) (as.mapM f) (bs.mapM g) := by
  induction h with
  | nil => exact .ok .nil
  | cons hab _ ih =>
    rw [List.mapM_cons, List.mapM_cons]
    -- The first error ends both runs, and up to there their results are related.
    refine (hstep _ _ hab).bind ?_
    intro c d hcd
    refine ih.bind ?_
    intro cs ds hrest
    exact .ok (.cons hcd hrest)

end

/-! ## Segments -/

/-- The same segment, `d` places farther up, without going around the address space. -/
structure Segment.IsMoved (d : Int) (s t : Segment) : Prop where
  index : t.index = s.index
  start : (t.start.toNat : Int) = s.start.toNat + d
  stop : (t.stop.toNat : Int) = s.stop.toNat + d
  protection : t.protection = s.protection
  fileOffset : t.fileOffset = s.fileOffset
  fileSize : t.fileSize = s.fileSize

theorem Segment.IsMoved.size {d : Int} {s t : Segment} (h : s.IsMoved d t) : t.size = s.size := by
  have hstart : (t.range.start.toNat : Int) = s.range.start.toNat + d := h.start
  have hstop : (t.range.stop.toNat : Int) = s.range.stop.toNat + d := h.stop
  show t.range.stop.toNat - t.range.start.toNat = s.range.stop.toNat - s.range.start.toNat
  omega

namespace Image

/-- Every loaded segment ends at an address. -/
def LoadsFit (m : Image) : Prop :=
  ∀ h ∈ m.headers, h.isLoad = true → m.base.toNat + (h.vaddr - m.loadBias) + h.memSize < 2 ^ 64

/-- The same image, `d` places farther up, and in neither place a segment goes around the address
space. -/
structure IsMoved (d : Int) (m m' : Image) : Prop where
  base : (m'.base.toNat : Int) = m.base.toNat + d
  loadBias : m'.loadBias = m.loadBias
  headers : m'.headers = m.headers
  above : ∀ h ∈ m.headers, h.isLoad = true → m.loadBias ≤ h.vaddr
  fits : m.LoadsFit
  fits' : m'.LoadsFit

/-- The base is all that two images of a file differ in. -/
theorem isMoved_of_parseWith {read : Elf.FileReader} {data : List UInt8} {b b' : Address}
    {m m' : Image} (h : parseWith read data b = .ok m) (h' : parseWith read data b' = .ok m')
    (hfits : m.LoadsFit) (hfits' : m'.LoadsFit) : m.IsMoved ((b'.toNat : Int) - b.toNat) m' := by
  rcases parseWith_eq_ok_iff.1 h with ⟨file, _, _, hof⟩
  have hsame : m' = { m with base := b' } := by
    rw [parseWith_base read data b b', h] at h'
    exact (Except.ok.inj h').symm
  subst hsame
  refine ⟨?_, rfl, rfl, ?_, hfits, hfits'⟩
  · have hbase : m.base = b := hof.base
    show (b'.toNat : Int) = m.base.toNat + ((b'.toNat : Int) - b.toNat)
    rw [hbase]
    omega
  · intro header hmem hload
    exact hof.lowest header hmem (Elf.ProgramHeader.isLoad_iff.1 hload)

variable {d : Int} {m m' : Image}

/-- An entry of the table is loaded in both places or in neither. -/
theorem IsMoved.segmentAt? (h : m.IsMoved d m') (index : Nat) :
    Option.Rel (Segment.IsMoved d) (m.segmentAt? index) (m'.segmentAt? index) := by
  have hbase := h.base
  cases hheader : m.headers[index]? with
  | none => simp [Image.segmentAt?, h.headers, hheader]
  | some header =>
    have hmem : header ∈ m.headers := List.mem_of_getElem? hheader
    cases hload : header.isLoad with
    | false => simp [Image.segmentAt?, h.headers, hheader, hload]
    | true =>
      have hkind := Elf.ProgramHeader.isLoad_iff.1 hload
      have habove := h.above header hmem hload
      have hfits := h.fits header hmem hload
      have hfits' := h.fits' header (h.headers ▸ hmem) hload
      rw [h.loadBias] at hfits'
      have hplaces : m.Places header (m.base.toNat + (header.vaddr - m.loadBias))
          (m.base.toNat + (header.vaddr - m.loadBias) + header.memSize) :=
        ⟨hkind, habove, rfl, rfl, by omega⟩
      have hplaces' : m'.Places header (m'.base.toNat + (header.vaddr - m.loadBias))
          (m'.base.toNat + (header.vaddr - m.loadBias) + header.memSize) :=
        ⟨hkind, h.loadBias ▸ habove, by rw [h.loadBias], rfl, by omega⟩
      rcases hplaces.exists_segment hheader with ⟨s, hs, hstart, hstop⟩
      rcases hplaces'.exists_segment (h.headers ▸ hheader) with ⟨t, ht, hstart', hstop'⟩
      rw [segmentAt?_eq_some_iff.2 ⟨_, hs⟩, segmentAt?_eq_some_iff.2 ⟨_, ht⟩]
      exact .some ⟨ht.index.trans hs.index.symm, by omega, by omega,
        ht.protection.trans hs.protection.symm, ht.fileOffset.trans hs.fileOffset.symm,
        ht.fileSize.trans hs.fileSize.symm⟩

theorem IsMoved.segments (h : m.IsMoved d m') :
    List.Forall₂ (Segment.IsMoved d) m.segments m'.segments := by
  have hlength : m'.headers.length = m.headers.length := congrArg List.length h.headers
  rw [Image.segments, Image.segments, hlength]
  refine List.rel_filterMap (R := Eq) ?_ (List.forall₂_refl _)
  rintro index _ rfl
  exact h.segmentAt? index

theorem IsMoved.executableSegments (h : m.IsMoved d m') :
    List.Forall₂ (Segment.IsMoved d) m.executableSegments m'.executableSegments := by
  refine List.rel_filter ?_ h.segments
  intro s t hst
  show s.protection.execute = true ↔ t.protection.execute = true
  rw [hst.protection]

/-! ## Code -/

theorem segmentCode_agree {s t : Segment} (h : s.IsMoved d t) (data : List UInt8) :
    Except.Agree (Code.IsMoved d) (segmentCode s data) (segmentCode t data) := by
  have hlength : min t.fileSize t.size = min s.fileSize s.size := by rw [h.fileSize, h.size]
  -- Whether the file is long enough, and what the error says, does not depend on the place.
  by_cases hshort : data.length < s.fileOffset + min s.fileSize s.size
  · have hs := segmentCode_of_short hshort
    have ht : segmentCode t data = .error (.segmentOutOfFile s.index s.fileOffset s.fileSize) := by
      rw [← h.index, ← h.fileOffset, ← h.fileSize]
      rw [← h.fileOffset, ← hlength] at hshort
      exact segmentCode_of_short hshort
    rw [hs, ht]
    exact .error _
  · rcases exists_segmentCode hshort with ⟨c, hc, hbase, hbytes⟩
    rw [← h.fileOffset, ← hlength] at hshort
    rcases exists_segmentCode hshort with ⟨c', hc', hbase', hbytes'⟩
    rw [hc, hc']
    refine .ok ⟨?_, ?_⟩
    · rw [hbase, hbase']
      exact h.start
    · rw [hbytes, hbytes', h.fileOffset, hlength]

end Image

namespace Survey

/-- Two segments with their code are as far apart as the images are. -/
def PartsMoved (d : Int) (p p' : Segment × Code) : Prop :=
  Segment.IsMoved d p.1 p'.1 ∧ Code.IsMoved d p.2 p'.2

theorem ofImage_agree {d : Int} {m m' : Image} (h : m.IsMoved d m') (data : List UInt8) :
    Except.Agree (fun s s' => List.Forall₂ (PartsMoved d) s.parts s'.parts) (ofImage m data)
      (ofImage m' data) := by
  refine (Except.Agree.mapM (S := PartsMoved d) h.executableSegments ?_).bind ?_
  · intro s t hst
    refine (Image.segmentCode_agree hst data).bind ?_
    intro c c' hc
    exact .ok ⟨hst, hc⟩
  · intro parts parts' hparts
    exact .ok hparts

end Survey

/-! ## Hits -/

/-- The same hit, `d` places farther up: the match without going around the address space, its
destination around if need be. -/
structure Hit.IsMoved (d : Int) (h k : Hit) : Prop where
  kind : k.kind = h.kind
  address : (k.address.toNat : Int) = h.address.toNat + d
  length : k.length = h.length
  segment : k.segment = h.segment
  target : k.target = h.target.map fun t => t.offset d

namespace Survey

variable {d : Int}

theorem flatMap_hitsIn_moved {q : Query} {o : ScanOptions} (hq : q.MovesWith o d)
    {parts parts' : List (Segment × Code)} (h : List.Forall₂ (PartsMoved d) parts parts') :
    (parts'.flatMap fun p => (q.moved d).hitsIn o p.1.index p.2) =
      (parts.flatMap fun p => q.hitsIn o p.1.index p.2).map (Hit.moved d) := by
  induction h with
  | nil => rfl
  | cons hpart _ ih =>
    rw [List.flatMap_cons, List.flatMap_cons, List.map_append, ih, hpart.1.index,
      Query.hitsIn_moved hpart.2 hq]

/-- No hit goes around the address space, as the code that it lies in does not. -/
theorem toNat_offset_of_mem {q : Query} {o : ScanOptions} {parts parts' : List (Segment × Code)}
    (h : List.Forall₂ (PartsMoved d) parts parts') {k : Hit}
    (hk : k ∈ parts.flatMap fun p => q.hitsIn o p.1.index p.2) :
    ((k.address.offset d).toNat : Int) = k.address.toNat + d := by
  induction h with
  | nil => simp at hk
  | cons hpart _ ih =>
    rw [List.flatMap_cons, List.mem_append] at hk
    rcases hk with hhere | hrest
    · rcases Query.mem_hitsIn_bounds hhere with ⟨hlo, hhi⟩
      exact hpart.2.toNat_offset hlo (Nat.le_of_lt hhi)
    · exact ih hrest

/-- Moving all hits leaves their order. -/
theorem sortByAddress_moved {hits : List Hit}
    (h : ∀ k ∈ hits, ((k.address.offset d).toNat : Int) = k.address.toNat + d) :
    Hit.sortByAddress (hits.map (Hit.moved d)) = (Hit.sortByAddress hits).map (Hit.moved d) := by
  refine Hit.sortByAddress_map ?_
  intro k hk l hl
  have hka := h k hk
  have hla := h l hl
  show k.address ≤ l.address ↔ k.address.offset d ≤ l.address.offset d
  rw [Address.le_iff, Address.le_iff]
  omega

theorem hits_isMoved {s s' : Survey} (h : List.Forall₂ (PartsMoved d) s.parts s'.parts)
    {o : ScanOptions} {q : Query} (hq : q.MovesWith o d) :
    List.Forall₂ (Hit.IsMoved d) ((s.withOptions o).hits q)
      ((s'.withOptions o).hits (q.moved d)) := by
  have hinside := fun k => toNat_offset_of_mem (q := q) (o := o) (k := k) h
  have hmoved : (s'.withOptions o).hits (q.moved d) =
      ((s.withOptions o).hits q).map (Hit.moved d) := by
    show Hit.sortByAddress (s'.parts.flatMap fun p => (q.moved d).hitsIn o p.1.index p.2) = _
    rw [flatMap_hitsIn_moved hq h, sortByAddress_moved hinside]
    rfl
  rw [hmoved, List.forall₂_map_right_iff, List.forall₂_same]
  intro k hk
  exact ⟨rfl, hinside k (List.mem_mergeSort.1 hk), rfl, rfl, rfl⟩

/-- One file placed at two bases, whatever reads its headers, with no loaded segment that reaches
around the end of the address space. The segments lie as far apart as the bases and are the same
else. Both surveys fail with the same error, or every search gives the same hits in the same order,
so far apart, with destinations of calls so far apart modulo `2 ^ 64`. For function starts the
distance has to be a multiple of their alignment. -/
theorem segments_hits_isMoved (read : Elf.FileReader) {data : List UInt8} {b b' : Address}
    {m m' : Image} (h : Image.parseWith read data b = .ok m)
    (h' : Image.parseWith read data b' = .ok m') (hfits : m.LoadsFit) (hfits' : m'.LoadsFit)
    {d : Int} (hd : d = (b'.toNat : Int) - b.toNat) :
    List.Forall₂ (Segment.IsMoved d) m.segments m'.segments ∧
      Except.Agree (fun s s' => ∀ o : ScanOptions,
        (∀ target : Option Address,
          List.Forall₂ (Hit.IsMoved d) ((s.withOptions o).hits (.calls target))
            ((s'.withOptions o).hits (.calls (target.map fun t => t.offset d)))) ∧
        (∀ displacement : Int,
          List.Forall₂ (Hit.IsMoved d) ((s.withOptions o).hits (.leas displacement))
            ((s'.withOptions o).hits (.leas displacement))) ∧
        ((∀ n ∈ o.functionAlignment, n ≤ 1 ∨ (n : Int) ∣ d) → ∀ mode : PrologueMode,
          List.Forall₂ (Hit.IsMoved d) ((s.withOptions o).hits (.prologues mode))
            ((s'.withOptions o).hits (.prologues mode))))
        (ofImage m data) (ofImage m' data) ∧
      (read = Elf.File.read → Image.parseWith read data = Image.parse data) := by
  have hmoved : m.IsMoved d m' := hd ▸ Image.isMoved_of_parseWith h h' hfits hfits'
  refine ⟨hmoved.segments, (ofImage_agree hmoved data).imp ?_, ?_⟩
  · rintro s s' hparts o
    refine ⟨?_, ?_, ?_⟩
    · intro target
      exact hits_isMoved hparts (q := .calls target) (by rintro mode ⟨⟩)
    · intro displacement
      exact hits_isMoved hparts (q := .leas displacement) (by rintro mode ⟨⟩)
    · intro halign mode
      exact hits_isMoved hparts (q := .prologues mode) (fun _ _ => halign)
  · rintro rfl
    rw [Image.parseWith_read]

/-- A file with one executable segment: a call far back, a call through a slot, an address load,
filler and a landing pad. -/
def relocatableFile : List UInt8 :=
  [0x7f, 0x45, 0x4c, 0x46, 2, 1, 1, 0, 0, 0, 0, 0, 0, 0, 0, 0] ++
  -- the program header table, with one entry, lies behind the file header
  [2, 0, 0x3e, 0, 1, 0, 0, 0] ++ List.replicate 8 0 ++ [64, 0, 0, 0, 0, 0, 0, 0] ++
  List.replicate 12 0 ++ [64, 0, 56, 0, 1, 0, 0, 0, 0, 0, 0, 0] ++
  [1, 0, 0, 0, 5, 0, 0, 0, 120, 0, 0, 0, 0, 0, 0, 0] ++
  [0, 0x10, 0, 0, 0, 0, 0, 0] ++ List.replicate 8 0 ++
  [21, 0, 0, 0, 0, 0, 0, 0, 24, 0, 0, 0, 0, 0, 0, 0] ++ List.replicate 8 0 ++
  [0xe8, 0xfb, 0xff, 0xfe, 0xff, 0xff, 0x15, 0x05, 0, 0, 0, 0x48, 0x8d, 0x45, 0xf8, 0x90,
    0xf3, 0x0f, 0x1e, 0xfa, 0xc3]

def relocatableImage (base : Nat) : Image :=
  ⟨.ofNat base, 0x1000, [⟨1, 5, 120, 0x1000, 21, 24⟩]⟩

theorem parseWith_relocatableFile (base : Nat) :
    Image.parseWith Elf.File.read relocatableFile (.ofNat base) = .ok (relocatableImage base) := by
  have hread : Elf.File.read relocatableFile =
      .ok ⟨true, [⟨1, 5, 120, 0x1000, 21, 24⟩]⟩ := by
    decide +kernel
  rw [Image.parseWith, hread]
  rfl

set_option maxRecDepth 4000 in
theorem exists_ofImage_relocatableImage :
    ∃ segment c, ofImage (relocatableImage 0x8000) relocatableFile =
        .ok ⟨defaultOptions, [(segment, c)]⟩ ∧
      ⟨.call, .ofNat 0x8000, 5, 0, some (.ofInt (-0x8000))⟩ ∈
        (Query.calls none).hitsIn defaultOptions segment.index c :=
  ⟨⟨0, ⟨.ofNat 0x8000, .ofNat 0x8018⟩, ⟨true, false, true⟩, 120, 21⟩,
    ⟨.ofNat 0x8000, relocatableFile.drop 120, by decide +kernel⟩, rfl, by decide +kernel⟩

/-- At the lower base the first call leads around the address space, at the upper one it does
not. -/
theorem segments_hits_isMoved_relocatableFile :
    Image.parse relocatableFile (.ofNat 0x8000) = .ok (relocatableImage 0x8000) ∧
      Image.parse relocatableFile (.ofNat 0x400000) = .ok (relocatableImage 0x400000) ∧
      List.Forall₂ (Segment.IsMoved 0x3f8000) (relocatableImage 0x8000).segments
        (relocatableImage 0x400000).segments ∧
      ∃ s s', ofImage (relocatableImage 0x8000) relocatableFile = .ok s ∧
        ofImage (relocatableImage 0x400000) relocatableFile = .ok s' ∧
        ⟨.call, .ofNat 0x8000, 5, 0, some (.ofInt (-0x8000))⟩ ∈
          (s.withOptions defaultOptions).hits (.calls none) ∧
        List.Forall₂ (Hit.IsMoved 0x3f8000) ((s.withOptions defaultOptions).hits (.calls none))
          ((s'.withOptions defaultOptions).hits (.calls none)) ∧
        List.Forall₂ (Hit.IsMoved 0x3f8000)
          ((s.withOptions { functionAlignment := some 16 }).hits (.prologues .landingPad))
          ((s'.withOptions { functionAlignment := some 16 }).hits (.prologues .landingPad)) := by
  have hlower : (relocatableImage 0x8000).LoadsFit := by
    intro h hmem _
    rcases List.mem_singleton.1 hmem with rfl
    decide
  have hupper : (relocatableImage 0x400000).LoadsFit := by
    intro h hmem _
    rcases List.mem_singleton.1 hmem with rfl
    decide
  rcases segments_hits_isMoved Elf.File.read (d := 0x3f8000) (parseWith_relocatableFile 0x8000)
    (parseWith_relocatableFile 0x400000) hlower hupper (by decide) with
    ⟨hsegments, hagree, hplain⟩
  have hparse (base : Nat) :
      Image.parse relocatableFile (.ofNat base) = .ok (relocatableImage base) := by
    rw [← hplain rfl]
    exact parseWith_relocatableFile base
  rcases exists_ofImage_relocatableImage with ⟨segment, c, hs, hcall⟩
  -- One survey is there, so the other one is too.
  generalize hs' : ofImage (relocatableImage 0x400000) relocatableFile = r at hagree
  rw [hs] at hagree
  cases hagree with
  | ok hall =>
    have hhit := (mem_hits_segment_iff hs defaultOptions (.calls none) List.mem_cons_self).2 hcall
    have halign : ∀ n ∈ some (16 : Nat), n ≤ 1 ∨ (n : Int) ∣ 0x3f8000 := by
      rintro n ⟨⟩
      decide
    exact ⟨hparse _, hparse _, hsegments, _, _, hs, rfl, hhit.1, (hall defaultOptions).1 none,
      (hall { functionAlignment := some 16 }).2.2 halign .landingPad⟩

end Survey

end CodeSurvey
