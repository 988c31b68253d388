import CodeSurvey.Proofs.Json.Partial
import CodeSurvey.Proofs.Json.Unchecked
import CodeSurvey.Settings.Basic

/-!
# Settings in a file

Settings are written into a file and loaded from it again, if they are valid; invalid ones can be
written too, but then they are refused. A file may leave some of them out, and it says what it would
say with their defaults in it. No file whatever gives settings that are not valid.

* `Settings.IsValid`, `validate_eq_ok_iff` : what settings have to be;
* `Settings.reset` : settings of which some are back at their defaults;
* `Settings.reads_json_without` : an object without some of its members is read as these;
* `Settings.LoadsAs` : what becomes of a file that holds settings;
* `Settings.load_of_written` : the files with written settings in them, and all others.
-/

namespace CodeSurvey

open Json

/-! ## Files -/

/-- A file with a text in it. -/
def FileEntry.holding (text : String) : FileEntry :=
  .regular text.toUTF8.data.toList

theorem FileEntry.readText_holding (text : String) : (holding text).readText = .ok text := by
  have hbytes : text.toUTF8.data.toList.toByteArray = text.toUTF8 := by
    apply ByteArray.ext
    rw [List.data_toByteArray, Array.toArray_toList]
  have htext : String.fromUTF8? text.toUTF8 = some text := by
    rw [String.fromUTF8?, String.toUTF8_eq_toByteArray, dif_pos text.isValidUTF8]
    rfl
  simp only [holding, readText, read, hbytes, htext]

/-! ## Values of the fields -/

theorem Resync.reads_name (r : Resync) : Reads Resync.readJson (.string r.name) r := by
  cases r with
  | stop => exact reads_choice (by decide)
  | byteWise => exact reads_choice (by decide)

theorem FlagMatch.reads_name (m : FlagMatch) : Reads FlagMatch.readJson (.string m.name) m := by
  cases m with
  | subset => exact reads_choice (by decide)
  | exact => exact reads_choice (by decide)

/-- What starts with a digit is not the word `null`. -/
theorem reads_some {read : Reader Nat} {n : Nat} (h : Reads read (.number n) n) :
    Reads (readOption read) (.number n) (some n) := by
  intro rest hrest
  have htext : (Value.number n).compact.toList = Nat.toDigits 10 n := by
    rw [Value.compact, Nat.toString_eq_ofList_toDigits, String.toList_ofList]
  have hread := h rest hrest
  rcases exists_cons_toDigits n with ⟨c, ds, hcut, hc⟩
  rw [htext, hcut, List.cons_append] at hread ⊢
  have hskip : skipBlanks (c :: (ds ++ rest)) = c :: (ds ++ rest) :=
    List.dropWhile_cons_of_neg (by simp [isBlank_of_isDigit hc])
  unfold readOption
  rw [hskip]
  split
  · next hnull =>
    cases hnull
    exact absurd hc (by decide)
  · rw [hread]
    rfl

/-- An alignment is read back, and so is that there is none. -/
theorem reads_alignment {n : Option Nat} (hn : ∀ k ∈ n, k < 1 <<< 64) :
    Reads readAlignment (.ofOption n) n := by
  cases n with
  | none =>
    intro rest _
    rfl
  | some k => exact reads_some (reads_number (Nat.le_refl _) (hn k rfl))

theorem lt_of_readAlignment {n : Option Nat} {cs rest : List Char}
    (h : readAlignment cs = .ok (n, rest)) : ∀ k ∈ n, k < 1 <<< 64 := by
  unfold readAlignment readOption at h
  split at h
  · rcases Except.bind_eq_ok_iff.1 h with ⟨behind, _, hnone⟩
    cases hnone
    rintro k ⟨⟩
  · rcases map_eq_ok_iff.1 h with ⟨k, hk, rfl⟩
    rintro _ ⟨⟩
    exact ((readUnsigned_eq_ok_iff (Nat.le_refl _)).1 hk).1

namespace Settings

variable {s t : Settings} {text : String}

/-! ## Validity -/

/-- An alignment is a power of two, and a listing and a step through the table go on. -/
structure IsValid (s : Settings) : Prop where
  alignment : ∀ n ∈ s.functionAlignment, ∃ k < 64, n = 2 ^ k
  listing : 1 ≤ s.maxListing
  stride : 1 ≤ s.segmentStep.stride

/-- All numbers are words. -/
structure FitsWords (s : Settings) : Prop where
  alignment : ∀ n ∈ s.functionAlignment, n < 1 <<< 64
  stride : s.segmentStep.stride < 1 <<< 64
  listing : s.maxListing < 1 <<< 64

theorem isPowerOfTwo_iff {n : Nat} : isPowerOfTwo n = true ↔ ∃ k, n = 2 ^ k := by
  rw [isPowerOfTwo, beq_iff_eq, Nat.one_shiftLeft]
  constructor
  · intro h
    exact ⟨n.log2, h.symm⟩
  · rintro ⟨k, rfl⟩
    rw [Nat.log2_two_pow]

/-- A word that is a power of two has one of the 64 exponents. -/
theorem isPowerOfTwo_iff_of_word {n : Nat} (hn : n < 1 <<< 64) :
    isPowerOfTwo n = true ↔ ∃ k < 64, n = 2 ^ k := by
  rw [isPowerOfTwo_iff]
  constructor
  · rintro ⟨k, rfl⟩
    have hword : (1 <<< 64 : Nat) = 2 ^ 64 := rfl
    rw [hword] at hn
    exact ⟨k, (Nat.pow_lt_pow_iff_right (by decide)).1 hn, rfl⟩
  · rintro ⟨k, _, hk⟩
    exact ⟨k, hk⟩

theorem validate_eq_ok_iff (hs : s.FitsWords) : s.validate = .ok () ↔ s.IsValid := by
  have hpower : (s.functionAlignment.filter fun n => !isPowerOfTwo n) = none ↔
      ∀ n ∈ s.functionAlignment, ∃ k < 64, n = 2 ^ k := by
    rw [Option.filter_eq_none_iff]
    refine forall₂_congr fun n hn => ?_
    rw [Bool.not_eq_true', Bool.not_eq_false, isPowerOfTwo_iff_of_word (hs.alignment n hn)]
  constructor
  · intro h
    unfold validate at h
    split at h
    · cases h
    · next hnone =>
      split at h
      · cases h
      · next hlisting =>
        exact ⟨hpower.1 hnone, Nat.pos_of_ne_zero hlisting, s.segmentStep.stride_pos⟩
  · intro hvalid
    rw [validate, hpower.2 hvalid.alignment]
    exact if_neg (Nat.ne_of_gt hvalid.listing)

/-! ## Written settings -/

/-- Settings of which some are back at their defaults. -/
def reset (s : Settings) (removed : String → Bool) : Settings where
  resync := if removed "resync" then defaults.resync else s.resync
  sweepResync := if removed "sweep_resync" then defaults.sweepResync else s.sweepResync
  functionAlignment :=
    if removed "function_alignment" then defaults.functionAlignment else s.functionAlignment
  flagMatch := if removed "flag_match" then defaults.flagMatch else s.flagMatch
  segmentStep := if removed "segment_step" then defaults.segmentStep else s.segmentStep
  maxListing := if removed "max_listing" then defaults.maxListing else s.maxListing

theorem FitsWords.reset (hs : s.FitsWords) (removed : String → Bool) :
    (s.reset removed).FitsWords where
  alignment := by
    intro n hn
    simp only [Settings.reset] at hn
    split at hn
    · cases hn
    · exact hs.alignment n hn
  stride := by
    simp only [Settings.reset]
    split
    · decide
    · exact hs.stride
  listing := by
    simp only [Settings.reset]
    split
    · decide
    · exact hs.listing

/-- Written settings of which some have been left out are read with the defaults in their places. -/
theorem reads_json_without (hs : s.FitsWords) (removed : String → Bool) :
    Reads form.read (s.json.without removed) (s.reset removed) := by
  let r := s.reset removed
  apply RecordForm.reads_object (a := r)
  case hfinish => rfl
  case h =>
    -- Each member leads from the settings that have been read in front of it to the next ones.
    let r₁ := { defaults with resync := r.resync }
    let r₂ := { r₁ with sweepResync := r.sweepResync }
    let r₃ := { r₂ with functionAlignment := r.functionAlignment }
    let r₄ := { r₃ with flagMatch := r.flagMatch }
    let r₅ := { r₄ with segmentStep := r.segmentStep }
    refine .member (g := fun x => { defaults with resync := x }) (y := defaults.resync)
      (by decide) rfl rfl s.resync.reads_name rfl ?_
    refine .member (g := fun x => { r₁ with sweepResync := x }) (y := defaults.sweepResync)
      (by decide) rfl rfl s.sweepResync.reads_name rfl ?_
    refine .member (g := fun x => { r₂ with functionAlignment := x })
      (y := defaults.functionAlignment) (by decide) rfl rfl (reads_alignment hs.alignment) rfl ?_
    refine .member (g := fun x => { r₃ with flagMatch := x }) (y := defaults.flagMatch)
      (by decide) rfl rfl s.flagMatch.reads_name rfl ?_
    refine .member (g := fun x => { r₄ with segmentStep := x }) (y := defaults.segmentStep)
      (by decide) rfl rfl (s.segmentStep.reads_json hs.stride) rfl ?_
    refine .member (g := fun x => { r₅ with maxListing := x }) (y := defaults.maxListing)
      (by decide) rfl rfl (reads_number (Nat.le_refl _) hs.listing) rfl ?_
    exact .nil

/-! ## Everything that is read -/

theorem keeps_fitsWords : form.Keeps FitsWords where
  initial := ⟨by rintro n ⟨⟩, by decide, by decide⟩
  field := by
    intro f hf s cs t rest hs hread
    simp only [form, List.mem_cons, List.not_mem_nil, or_false] at hf
    -- Three readers give a number, which they have checked, and three change no number at all.
    rcases hf with rfl | rfl | rfl | rfl | rfl | rfl
    · rcases (map_eq_ok_iff (f := fun a => { s with resync := a })).1 hread with ⟨a, _, rfl⟩
      exact ⟨hs.alignment, hs.stride, hs.listing⟩
    · rcases (map_eq_ok_iff (f := fun a => { s with sweepResync := a })).1 hread with ⟨a, _, rfl⟩
      exact ⟨hs.alignment, hs.stride, hs.listing⟩
    · rcases (map_eq_ok_iff (f := fun a => { s with functionAlignment := a })).1 hread with
        ⟨a, ha, rfl⟩
      exact ⟨lt_of_readAlignment ha, hs.stride, hs.listing⟩
    · rcases (map_eq_ok_iff (f := fun a => { s with flagMatch := a })).1 hread with ⟨a, _, rfl⟩
      exact ⟨hs.alignment, hs.stride, hs.listing⟩
    · rcases (map_eq_ok_iff (f := fun a => { s with segmentStep := a })).1 hread with ⟨a, ha, rfl⟩
      exact ⟨hs.alignment, SegmentStep.stride_lt_of_readJson ha, hs.listing⟩
    · rcases (map_eq_ok_iff (f := fun a => { s with maxListing := a })).1 hread with ⟨a, ha, rfl⟩
      exact ⟨hs.alignment, hs.stride, ((readUnsigned_eq_ok_iff (Nat.le_refl _)).1 ha).1⟩

theorem fitsWords_of_readDocument (h : readDocument form.read text = .ok s) : s.FitsWords := by
  rcases Json.readDocument_eq_ok_iff.1 h with ⟨rest, hread, _⟩
  rcases keeps_fitsWords.of_read hread with ⟨t, ht, hfinish⟩
  cases hfinish
  exact ht

/-! ## Loading -/

/-- What becomes of a file that says these settings. -/
structure LoadsAs (file : FileEntry) (s : Settings) : Prop where
  valid : s.IsValid → load file = .ok s
  invalid : ¬s.IsValid → ∃ fault, s.validate = .error fault ∧ load file = .error (.invalid fault)

theorem ofText_eq_ok_iff :
    ofText text = .ok s ↔ readDocument form.read text = .ok s ∧ s.validate = .ok () := by
  rw [ofText]
  constructor
  · intro h
    split at h
    · cases h
    · next t ht =>
      split at h
      · next hvalid =>
        cases h
        exact ⟨ht, hvalid⟩
      · cases h
  · rintro ⟨hread, hvalid⟩
    simp only [hread, hvalid]

theorem loadsAs_of_readDocument (hread : readDocument form.read text = .ok s) :
    LoadsAs (.holding text) s := by
  have hs := fitsWords_of_readDocument hread
  have hload : load (.holding text) = ofText text := by
    rw [load, FileEntry.readText_holding]
  constructor
  case valid =>
    intro hvalid
    rw [hload, ofText_eq_ok_iff]
    exact ⟨hread, (validate_eq_ok_iff hs).2 hvalid⟩
  case invalid =>
    intro hinvalid
    cases hcheck : s.validate with
    | ok => exact absurd ((validate_eq_ok_iff hs).1 hcheck) hinvalid
    | error fault =>
      refine ⟨fault, rfl, ?_⟩
      rw [hload, ofText]
      simp only [hread, hcheck]

theorem LoadsAs.load_eq {file file' : FileEntry} (h : LoadsAs file s) (h' : LoadsAs file' s) :
    load file = load file' := by
  by_cases hvalid : s.IsValid
  · rw [h.valid hvalid, h'.valid hvalid]
  · rcases h.invalid hvalid with ⟨fault, hfault, hload⟩
    rcases h'.invalid hvalid with ⟨fault', hfault', hload'⟩
    cases hfault.symm.trans hfault'
    rw [hload, hload']

theorem exists_text_of_load {file : FileEntry} (h : load file = .ok s) :
    ∃ text, readDocument form.read text = .ok s ∧ s.validate = .ok () := by
  rw [load] at h
  split at h
  · cases h
  · next text _ => exact ⟨text, ofText_eq_ok_iff.1 h⟩

theorem fitsWords_of_load {file : FileEntry} (h : load file = .ok s) : s.FitsWords := by
  rcases exists_text_of_load h with ⟨text, hread, _⟩
  exact fitsWords_of_readDocument hread

theorem isValid_of_load {file : FileEntry} (h : load file = .ok s) : s.IsValid := by
  rcases exists_text_of_load h with ⟨text, _, hvalid⟩
  exact (validate_eq_ok_iff (fitsWords_of_load h)).1 hvalid

theorem loadsAs_json_without (hs : s.FitsWords) (removed : String → Bool) :
    LoadsAs (.holding (s.json.without removed).compact) (s.reset removed) :=
  loadsAs_of_readDocument (reads_json_without hs removed).readDocument

theorem loadsAs_json (hs : s.FitsWords) : LoadsAs (.holding s.json.compact) s :=
  loadsAs_json_without hs fun _ => false

/-- A file with written settings is loaded as these if they are valid, and refused as invalid if
they are not. A file in which some of them have been left out is loaded like one that has them at
their defaults. From any file at all only valid settings are loaded, which can be written and loaded
again. -/
theorem load_of_written (hs : s.FitsWords) (removed : String → Bool) :
    LoadsAs (.holding s.json.compact) s ∧
      (LoadsAs (.holding (s.json.without removed).compact) (s.reset removed) ∧
        load (.holding (s.json.without removed).compact) =
          load (.holding (s.reset removed).json.compact)) ∧
      ∀ file t, load file = .ok t → t.IsValid ∧ load (.holding t.json.compact) = .ok t := by
  have hpart := loadsAs_json_without hs removed
  refine ⟨loadsAs_json hs, ⟨hpart, hpart.load_eq (loadsAs_json (hs.reset removed))⟩, ?_⟩
  intro file t ht
  have hvalid := isValid_of_load ht
  exact ⟨hvalid, (loadsAs_json (fitsWords_of_load ht)).valid hvalid⟩

/-- No setting at its default, and the largest numbers there are. -/
def largestNumbers : Settings where
  resync := .byteWise
  sweepResync := .stop
  functionAlignment := some (1 <<< 63)
  flagMatch := .exact
  segmentStep := { direction := .backward, stride := 0xffffffffffffffff }
  maxListing := 0xffffffffffffffff

/-- An alignment that is none. -/
def unevenAlignment : Settings :=
  { largestNumbers with functionAlignment := some 12 }

theorem load_of_written_largestNumbers :
    largestNumbers.FitsWords ∧ load (.holding largestNumbers.json.compact) = .ok largestNumbers ∧
      unevenAlignment.FitsWords ∧
      load (.holding unevenAlignment.json.compact) = .error (.invalid (.alignment 12)) ∧
      load (.holding (unevenAlignment.json.without (· == "function_alignment")).compact) =
        .ok { largestNumbers with functionAlignment := none } := by
  have hlargest : largestNumbers.FitsWords := ⟨by rintro _ ⟨⟩; decide, by decide, by decide⟩
  have huneven : unevenAlignment.FitsWords := ⟨by rintro _ ⟨⟩; decide, by decide, by decide⟩
  have hvalid := (validate_eq_ok_iff hlargest).1 rfl
  have hinvalid : ¬unevenAlignment.IsValid := fun h => by
    cases (validate_eq_ok_iff huneven).2 h
  rcases load_of_written huneven (· == "function_alignment") with ⟨hwhole, ⟨hpart, _⟩, _⟩
  rcases hwhole.invalid hinvalid with ⟨fault, hfault, hload⟩
  cases hfault
  refine ⟨hlargest, (load_of_written hlargest fun _ => false).1.valid hvalid, huneven, hload, ?_⟩
  exact hpart.valid ((validate_eq_ok_iff (huneven.reset _)).1 rfl)

end Settings

end CodeSurvey
