import CodeSurvey.Proofs.Elf.Words
import CodeSurvey.Proofs.Image.Parts
import Mathlib.Data.List.Basic

/-!
# Link addresses

The image of a file lies where its lowest link address is at the base. Only the headers matter for
that, whatever reads them out of the file.

* `Image.parseWith`, `parseAtLinkAddressWith` : the image of a file that some reader reads;
* `Image.IsOf m file b` : the headers of the file, with the lowest of its link addresses at `b`;
* `Image.HoldsLoads` : the segments are the loaded entries that end at an address, each at its
  distance from the lowest;
* `Image.LiesAsLinked` : the image is at its link addresses;
* `Image.parse_places_loads` : parsing gives such images.
-/

namespace CodeSurvey.Image

variable {m : Image} {read : Elf.FileReader} {data : List UInt8} {b b' : Address}
  {headers : List Elf.ProgramHeader} {h : Elf.ProgramHeader} {n : Nat}

/-! ## Any reader -/

/-- The image of a file that has been read. -/
def ofFile (file : Elf.File) (base : Address) : Except ImageError Image :=
  if !file.is64 then .error .not64Bit
  else
    match lowestLoad? file.programHeaders with
    | none => .error .noLoadableSegments
    | some loadBias => .ok ⟨base, loadBias, file.programHeaders⟩

/-- The image of a file that `read` has the headers of. -/
def parseWith (read : Elf.FileReader) (data : List UInt8) (base : Address) :
    Except ImageError Image :=
  match read data with
  | .error e => .error (.file e)
  | .ok file => ofFile file base

/-- The same, placed where it was linked. -/
def parseAtLinkAddressWith (read : Elf.FileReader) (data : List UInt8) : Except ImageError Image :=
  (parseWith read data .zero).map fun m => { m with base := .ofNat m.loadBias }

theorem parseWith_read : parseWith Elf.File.read = parse :=
  rfl

theorem parseAtLinkAddressWith_read : parseAtLinkAddressWith Elf.File.read = parseAtLinkAddress :=
  rfl

/-- The headers of a file, with the lowest link address of a loaded one at `b`. -/
structure IsOf (m : Image) (file : Elf.File) (b : Address) : Prop where
  base : m.base = b
  headers : m.headers = file.programHeaders
  attained : ∃ h ∈ m.headers, h.kind = 1 ∧ h.vaddr = m.loadBias
  lowest : ∀ h ∈ m.headers, h.kind = 1 → m.loadBias ≤ h.vaddr

theorem lowestLoad?_eq_some_iff :
    lowestLoad? headers = some n ↔
      (∃ h ∈ headers, h.kind = 1 ∧ h.vaddr = n) ∧ ∀ h ∈ headers, h.kind = 1 → n ≤ h.vaddr := by
  rw [lowestLoad?, List.min?_eq_some_iff]
  simp only [List.mem_map, List.mem_filter, Elf.ProgramHeader.isLoad_iff, and_assoc]
  refine and_congr_right fun _ => ?_
  constructor
  · intro hlowest h hmem hload
    exact hlowest h.vaddr ⟨h, hmem, hload, rfl⟩
  · rintro hlowest _ ⟨h, hmem, hload, rfl⟩
    exact hlowest h hmem hload

theorem exists_lowestLoad?_iff :
    (∃ n, lowestLoad? headers = some n) ↔ ∃ h ∈ headers, h.kind = 1 := by
  rw [← Option.isSome_iff_exists, lowestLoad?, List.isSome_min?_iff, ne_eq, List.map_eq_nil_iff,
    List.filter_eq_nil_iff]
  simp only [Elf.ProgramHeader.isLoad_iff, Classical.not_forall, Classical.not_not, exists_prop]

/-- An image comes from a 64-bit file with a loaded entry, and its load bias is the lowest. -/
theorem ofFile_eq_ok_iff {file : Elf.File} :
    ofFile file b = .ok m ↔ file.is64 = true ∧ m.IsOf file b := by
  cases h64 : file.is64 with
  | false => simp [ofFile, h64]
  | true =>
    constructor
    · intro hm
      cases hbias : lowestLoad? file.programHeaders with
      | none => simp [ofFile, h64, hbias] at hm
      | some bias =>
        simp only [ofFile, h64, hbias, Bool.not_true, Bool.false_eq_true, if_false,
          Except.ok.injEq] at hm
        subst hm
        rcases lowestLoad?_eq_some_iff.1 hbias with ⟨hattained, hlowest⟩
        exact ⟨rfl, rfl, rfl, hattained, hlowest⟩
    · rintro ⟨-, rfl, hheaders, hattained, hlowest⟩
      have hbias := lowestLoad?_eq_some_iff.2 ⟨hattained, hlowest⟩
      simp [ofFile, h64, ← hheaders, hbias]

theorem parseWith_eq_ok_iff :
    parseWith read data b = .ok m ↔
      ∃ file, read data = .ok file ∧ file.is64 = true ∧ m.IsOf file b := by
  cases hfile : read data with
  | error e => simp [parseWith, hfile]
  | ok file => simp [parseWith, hfile, ofFile_eq_ok_iff]

/-- A file has an image at every base or at none: it has to be read, to be a 64-bit file, and to
have a loaded entry. -/
theorem exists_parseWith_iff :
    (∃ m, parseWith read data b = .ok m) ↔
      ∃ file, read data = .ok file ∧ file.is64 = true ∧ ∃ h ∈ file.programHeaders, h.kind = 1 := by
  constructor
  · rintro ⟨m, hm⟩
    rcases parseWith_eq_ok_iff.1 hm with ⟨file, hfile, h64, hof⟩
    rcases hof.attained with ⟨h, hmem, hload, _⟩
    exact ⟨file, hfile, h64, h, hof.headers ▸ hmem, hload⟩
  · rintro ⟨file, hfile, h64, hload⟩
    rcases exists_lowestLoad?_iff.2 hload with ⟨bias, hbias⟩
    rcases lowestLoad?_eq_some_iff.1 hbias with ⟨hattained, hlowest⟩
    exact ⟨⟨b, bias, file.programHeaders⟩,
      parseWith_eq_ok_iff.2 ⟨file, hfile, h64, rfl, rfl, hattained, hlowest⟩⟩

/-- The base of an image is handed through. -/
theorem parseWith_base (read : Elf.FileReader) (data : List UInt8) (b b' : Address) :
    parseWith read data b' = (parseWith read data b).map fun m => { m with base := b' } := by
  cases hfile : read data with
  | error e => simp only [parseWith, hfile, Except.map]
  | ok file =>
    simp only [parseWith, hfile, ofFile]
    cases file.is64 with
    | false => rfl
    | true => cases lowestLoad? file.programHeaders <;> rfl

/-! ## Segments -/

/-- The segments come in table order and have the numbers of their entries. They are there for the
loaded entries that end at an address, each as far above the base as its link address is above the
load bias. -/
structure HoldsLoads (m : Image) : Prop where
  ordered : (m.segments.map Segment.index).Pairwise (· < ·)
  entries : ∀ n, n ∈ m.segments.map Segment.index ↔
    ∃ h, m.headers[n]? = some h ∧ h.kind = 1 ∧
      m.base.toNat + (h.vaddr - m.loadBias) + h.memSize ≤ 2 ^ 64 - 1
  places : ∀ s ∈ m.segments, ∃ h, m.headers[s.index]? = some h ∧
    s.start.toNat = m.base.toNat + (h.vaddr - m.loadBias) ∧ s.size = h.memSize

/-- No loaded entry lies below the load bias, so each is in place if it ends at an address. -/
theorem IsOf.places {file : Elf.File} (hof : m.IsOf file b) (hmem : h ∈ m.headers)
    (hload : h.kind = 1)
    (hfits : m.base.toNat + (h.vaddr - m.loadBias) + h.memSize ≤ 2 ^ 64 - 1) :
    m.Places h (m.base.toNat + (h.vaddr - m.loadBias))
      (m.base.toNat + (h.vaddr - m.loadBias) + h.memSize) :=
  ⟨hload, hof.lowest h hmem hload, rfl, rfl, hfits⟩

theorem IsOf.holdsLoads {file : Elf.File} (hof : m.IsOf file b) : m.HoldsLoads := by
  constructor
  case ordered => exact m.pairwise_index_segments
  case entries =>
    intro n
    rw [List.mem_map]
    constructor
    · rintro ⟨s, hs, rfl⟩
      rcases mem_segments_iff.1 hs with ⟨h, hs⟩
      have hstart := hs.places.start_eq
      have hstop := hs.places.stop_eq
      have hfits := hs.places.fits
      exact ⟨h, hs.header, hs.places.load, by omega⟩
    · rintro ⟨h, hheader, hload, hfits⟩
      have hplaces := hof.places (List.mem_of_getElem? hheader) hload hfits
      rcases hplaces.exists_segment hheader with ⟨s, hs, _⟩
      exact ⟨s, mem_segments_iff.2 ⟨h, hs.index.symm ▸ hs⟩, hs.index⟩
  case places =>
    intro s hs
    rcases mem_segments_iff.1 hs with ⟨h, hs⟩
    exact ⟨h, hs.header, hs.places.start_eq, hs.size_eq⟩

/-! ## Placed where it was linked -/

/-- Every link address from the load bias on lies at itself, and so does every loaded entry that
ends at an address. -/
structure LiesAsLinked (m : Image) : Prop where
  base : m.base.toNat = m.loadBias
  above : ∀ v : Address, m.loadBias ≤ v.toNat → m.runtimeAddress? v.toNat = some v
  below : ∀ v < m.loadBias, m.runtimeAddress? v = none
  loads : ∀ n h, m.headers[n]? = some h → h.kind = 1 → h.vaddr + h.memSize ≤ 2 ^ 64 - 1 →
    ∃ s ∈ m.segments, s.index = n ∧ s.start.toNat = h.vaddr ∧ s.stop.toNat = h.vaddr + h.memSize

theorem IsOf.liesAsLinked {file : Elf.File} (hof : m.IsOf file b)
    (hbase : m.base.toNat = m.loadBias) : m.LiesAsLinked := by
  constructor
  case base => exact hbase
  case above =>
    intro v hv
    exact runtimeAddress?_eq_some_iff.2 ⟨hv, by omega⟩
  case below =>
    intro v hv
    exact if_neg (Nat.not_le_of_lt hv)
  case loads =>
    intro n h hheader hload hfits
    have hmem := List.mem_of_getElem? hheader
    have habove := hof.lowest h hmem hload
    have hplaces := hof.places hmem hload (by omega)
    rcases hplaces.exists_segment hheader with ⟨s, hs, hstart, hstop⟩
    exact ⟨s, mem_segments_iff.2 ⟨h, hs.index.symm ▸ hs⟩, hs.index, by omega, by omega⟩

/-- The load bias is a link address, and so a place for the image. -/
theorem IsOf.loadBias_lt {file : Elf.File} (hof : m.IsOf file b)
    (hwords : ∀ h ∈ file.programHeaders, h.vaddr < 2 ^ 64) : m.loadBias < 2 ^ 64 := by
  rcases hof.attained with ⟨h, hmem, _, hbias⟩
  rw [← hbias]
  exact hwords h (hof.headers ▸ hmem)

/-- Parsing a file at its link addresses is parsing it at its load bias. -/
theorem parseAtLinkAddressWith_of_parseWith (hparse : parseWith read data b = .ok m) :
    parseAtLinkAddressWith read data = .ok { m with base := .ofNat m.loadBias } ∧
      parseWith read data (.ofNat m.loadBias) = .ok { m with base := .ofNat m.loadBias } := by
  have hzero : parseWith read data .zero = .ok { m with base := .zero } := by
    rw [parseWith_base read data b, hparse]
    rfl
  refine ⟨?_, ?_⟩
  · rw [parseAtLinkAddressWith, hzero]
    rfl
  · rw [parseWith_base read data b, hparse]
    rfl

theorem parseAtLinkAddressWith_of_error {e : ImageError}
    (hparse : parseWith read data b = .error e) : parseAtLinkAddressWith read data = .error e := by
  rw [parseAtLinkAddressWith, parseWith_base read data b, hparse]
  rfl

/-- Whatever reads the headers, a 64-bit file with a loaded entry has an image at every base. The
load bias is the lowest link address of a loaded entry, and the segments are the loaded entries that
end at an address, placed by their distance from it. Parsed at its link addresses, the same file has
the image that it has at the load bias, and there all link addresses lie at themselves. Files
without an image have none there either, for the same reason. -/
theorem parse_places_loads (read : Elf.FileReader) (hwords : read.ReadsWords)
    (data : List UInt8) (b : Address) :
    ((∃ m, parseWith read data b = .ok m) ↔
      ∃ file, read data = .ok file ∧ file.is64 = true ∧ ∃ h ∈ file.programHeaders, h.kind = 1) ∧
    (∀ m, parseWith read data b = .ok m →
      (∃ file, read data = .ok file ∧ m.IsOf file b) ∧ m.HoldsLoads ∧
      ∃ linked, parseAtLinkAddressWith read data = .ok linked ∧
        parseWith read data (.ofNat m.loadBias) = .ok linked ∧ linked.loadBias = m.loadBias ∧
        linked.headers = m.headers ∧ linked.LiesAsLinked) ∧
    (∀ e, parseWith read data b = .error e → parseAtLinkAddressWith read data = .error e) ∧
    (read = Elf.File.read → parseWith read data b = parse data b ∧
      parseAtLinkAddressWith read data = parseAtLinkAddress data) := by
  refine ⟨exists_parseWith_iff, ?_, fun e => parseAtLinkAddressWith_of_error, ?_⟩
  · intro m hm
    rcases parseWith_eq_ok_iff.1 hm with ⟨file, hfile, _, hof⟩
    rcases parseAtLinkAddressWith_of_parseWith hm with ⟨hlinked, hplaced⟩
    rcases parseWith_eq_ok_iff.1 hplaced with ⟨file', _, _, hof'⟩
    have hbias : (Address.ofNat m.loadBias).toNat = m.loadBias :=
      Address.toNat_ofNat_of_lt (hof.loadBias_lt (hwords data file hfile))
    exact ⟨⟨file, hfile, hof⟩, hof.holdsLoads, _, hlinked, hplaced, rfl, rfl,
      hof'.liesAsLinked hbias⟩
  · rintro rfl
    rw [parseWith_read, parseAtLinkAddressWith_read]
    exact ⟨rfl, rfl⟩

/-- Two loaded entries, the lower one last, and one that is not loaded below both. -/
def linkedHeaders : List Elf.ProgramHeader :=
  [⟨1, 5, 0x1000, 0x401000, 0x100, 0x100⟩, ⟨2, 6, 0, 0x1000, 0, 0⟩,
    ⟨1, 4, 0, 0x400000, 0x1000, 0x1000⟩]

def wordBytes (n : Nat) : List UInt8 :=
  (List.range 8).map fun k => UInt8.ofNat (n >>> (8 * k))

def headerBytes (h : Elf.ProgramHeader) : List UInt8 :=
  [UInt8.ofNat h.kind, 0, 0, 0, UInt8.ofNat h.flags, 0, 0, 0] ++
    [h.offset, h.vaddr, h.vaddr, h.fileSize, h.memSize, 1].flatMap wordBytes

/-- A file of nothing but these headers. -/
def linkedFile : List UInt8 :=
  [0x7f, 0x45, 0x4c, 0x46, 2, 1, 1, 0, 0, 0, 0, 0, 0, 0, 0, 0, 2, 0, 0x3e, 0, 1, 0, 0, 0] ++
    [0x401000, 64, 0].flatMap wordBytes ++
    [0, 0, 0, 0, 64, 0, 56, 0, 3, 0, 64, 0, 0, 0, 0, 0] ++ linkedHeaders.flatMap headerBytes

theorem parse_places_loads_linkedFile :
    Elf.FileReader.ReadsWords Elf.File.read ∧
      ∃ m linked, parse linkedFile (.ofNat 0x7f0000000000) = .ok m ∧ m.loadBias = 0x400000 ∧
        m.HoldsLoads ∧ parseAtLinkAddress linkedFile = .ok linked ∧
        linked.runtimeAddress? 0x401000 = some (.ofNat 0x401000) ∧
        linked.runtimeAddress? 0x3fffff = none ∧
        ∃ s ∈ linked.segments, s.index = 0 ∧ s.start.toNat = 0x401000 ∧
          s.stop.toNat = 0x401100 := by
  have hfile : Elf.File.read linkedFile = .ok ⟨true, linkedHeaders⟩ := by decide +kernel
  have hparse : parseWith Elf.File.read linkedFile (.ofNat 0x7f0000000000) =
      .ok ⟨.ofNat 0x7f0000000000, 0x400000, linkedHeaders⟩ := by
    rw [parseWith, hfile]
    rfl
  rcases parse_places_loads Elf.File.read Elf.File.readsWords_read linkedFile
    (.ofNat 0x7f0000000000) with ⟨_, himage, _, hplain⟩
  rcases hplain rfl with ⟨hplain, hplainLinked⟩
  rcases himage _ hparse with ⟨_, hholds, linked, hlinked, _, hbias, hheaders, hlies⟩
  have habove := hlies.above (.ofNat 0x401000) (by rw [hbias]; decide)
  have hbelow := hlies.below 0x3fffff (by rw [hbias]; decide)
  exact ⟨Elf.File.readsWords_read, _, linked, hplain.symm.trans hparse, rfl, hholds,
    hplainLinked.symm.trans hlinked, habove, hbelow,
    hlies.loads 0 ⟨1, 5, 0x1000, 0x401000, 0x100, 0x100⟩ (by rw [hheaders]; rfl) rfl (by decide)⟩

end CodeSurvey.Image
