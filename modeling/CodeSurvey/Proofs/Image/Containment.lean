import CodeSurvey.Proofs.Image.Lookup
import CodeSurvey.Proofs.Image.Noninterference
import Mathlib.Data.List.Basic

/-!
# Containment and the walk

Whether some segment covers a range is a question about the entries of the table, not about their
order or the way through them, as long as the walk leaves none out. Which segment is found first
does depend on the walk: from the last entry down it is the one that is first in the reversed table.

* `Image.withHeaders` : the image with another table, in the same place;
* `Image.containsSegment_iff` : a walk by steps of one finds a segment if some entry answers;
* `Image.findSegment?_backward` : the walk down is the walk up the reversed table;
* `Image.containsSegment_of_perm` : what both mean for a table in any order.
-/

namespace CodeSurvey

/-- Steps of one come to every entry. -/
theorem SegmentStep.exists_visits_iff {s : SegmentStep} (hstride : s.stride = 1)
    {length index : Nat} : (∃ k, s.Visits length k index) ↔ index < length := by
  simp only [Visits, hstride, Nat.mul_one]
  cases s.direction with
  | forward =>
    constructor
    · rintro ⟨k, _, hlt⟩
      exact hlt
    · intro hlt
      exact ⟨index, rfl, hlt⟩
  | backward =>
    constructor
    · rintro ⟨k, hsum⟩
      omega
    · intro hlt
      exact ⟨length - 1 - index, by omega⟩

namespace Image

/-- The same place, with another table. -/
def withHeaders (m : Image) (table : List Elf.ProgramHeader) : Image :=
  { m with headers := table }

variable {m : Image} {table : List Elf.ProgramHeader} {h : Elf.ProgramHeader} {v : Address}
  {n : Nat} {requested : Protection} {policy : FlagMatch} {step : SegmentStep}

/-! ## Some entry answers -/

theorem containsSegment_iff_visits :
    m.containsSegment v n requested step = true ↔
      ∃ k index h, step.Visits m.headers.length k index ∧ m.headers[index]? = some h ∧
        m.Answers h v n requested .subset := by
  rw [containsSegment, ← Option.ne_none_iff_isSome, ne_eq, findSegment?_eq_none_iff]
  push Not
  rfl

/-- A walk that leaves no entry out finds a segment exactly if some entry answers. -/
theorem containsSegment_iff (hstride : step.stride = 1) :
    m.containsSegment v n requested step = true ↔
      ∃ h ∈ m.headers, m.Answers h v n requested .subset := by
  rw [containsSegment_iff_visits]
  constructor
  · rintro ⟨k, index, h, _, hheader, hanswers⟩
    exact ⟨h, List.mem_of_getElem? hheader, hanswers⟩
  · rintro ⟨h, hmem, hanswers⟩
    rcases List.mem_iff_getElem?.1 hmem with ⟨index, hheader⟩
    have hindex : index < m.headers.length := (List.getElem?_eq_some_iff.1 hheader).1
    rcases (SegmentStep.exists_visits_iff hstride).2 hindex with ⟨k, hvisits⟩
    exact ⟨k, index, h, hvisits, hheader, hanswers⟩

/-- What an entry answers depends on where the image is and not on the other entries. -/
theorem answers_withHeaders :
    (m.withHeaders table).Answers h v n requested policy ↔ m.Answers h v n requested policy := by
  have hplaces (start stop : Nat) :
      (m.withHeaders table).Places h start stop ↔ m.Places h start stop := by
    constructor
    · intro hp
      exact ⟨hp.load, hp.above, hp.start_eq, hp.stop_eq, hp.fits⟩
    · intro hp
      exact ⟨hp.load, hp.above, hp.start_eq, hp.stop_eq, hp.fits⟩
  constructor
  · rintro ⟨hallowed, start, stop, hp, hcovered⟩
    exact ⟨hallowed, start, stop, (hplaces start stop).1 hp, hcovered⟩
  · rintro ⟨hallowed, start, stop, hp, hcovered⟩
    exact ⟨hallowed, start, stop, (hplaces start stop).2 hp, hcovered⟩

theorem containsSegment_withHeaders_iff (hperm : m.headers.Perm table)
    (hstride : step.stride = 1) :
    (m.withHeaders table).containsSegment v n requested step = true ↔
      ∃ h ∈ m.headers, m.Answers h v n requested .subset := by
  rw [containsSegment_iff hstride]
  constructor
  · rintro ⟨h, hmem, hanswers⟩
    exact ⟨h, hperm.mem_iff.2 hmem, answers_withHeaders.1 hanswers⟩
  · rintro ⟨h, hmem, hanswers⟩
    exact ⟨h, hperm.mem_iff.1 hmem, answers_withHeaders.2 hanswers⟩

/-! ## From the last entry down -/

theorem findSome?_congr {α β : Type} {f g : α → Option β} {l : List α}
    (hsame : ∀ a ∈ l, f a = g a) : l.findSome? f = l.findSome? g := by
  rw [← List.head?_filterMap, ← List.head?_filterMap, List.filterMap_congr hsame]

/-- Entry `index` of the reversed table is the one as far from its end, and makes the same segment
with another number. -/
theorem segmentAt?_reverse {index : Nat} (hindex : index < m.headers.length) :
    (m.withHeaders m.headers.reverse).segmentAt? index =
      (m.segmentAt? (m.headers.length - 1 - index)).map fun s => s.numbered index := by
  have hheader : m.headers.reverse[index]? = m.headers[m.headers.length - 1 - index]? :=
    List.getElem?_reverse hindex
  have hrange (h : Elf.ProgramHeader) :
      (m.withHeaders m.headers.reverse).rangeOf? h = m.rangeOf? h := rfl
  have htable : (m.withHeaders m.headers.reverse).headers = m.headers.reverse := rfl
  cases hentry : m.headers[m.headers.length - 1 - index]? with
  | none => simp [segmentAt?, htable, hheader, hentry]
  | some h =>
    cases hload : h.isLoad with
    | false => simp [segmentAt?, htable, hheader, hentry, hload]
    | true =>
      cases hplace : m.rangeOf? h with
      | none => simp [segmentAt?, htable, hrange, hheader, hentry, hload, hplace]
      | some r =>
        simp [segmentAt?, htable, hrange, hheader, hentry, hload, hplace, Segment.numbered]

/-- A walk down gives what a walk up gives in the reversed table, with the number that the entry has
in the table itself. -/
theorem findSegment?_backward :
    m.findSegment? v n requested { direction := .backward } policy =
      ((m.withHeaders m.headers.reverse).findSegment? v n requested { direction := .forward }
        policy).map fun s => s.numbered (m.headers.length - 1 - s.index) := by
  cases hquery : AddressRange.ofSize v n with
  | error e => simp only [findSegment?, hquery, Option.map_none]
  | ok query =>
    have htable : (m.withHeaders m.headers.reverse).headers.length = m.headers.length :=
      List.length_reverse
    have hforward : SegmentStep.indices { direction := .forward } m.headers.length =
        List.range m.headers.length := by
      simp [SegmentStep.indices]
    have hbackward : SegmentStep.indices { direction := .backward } m.headers.length =
        (List.range m.headers.length).map fun k => m.headers.length - 1 - k := by
      simp [SegmentStep.indices]
    simp only [findSegment?, hquery, htable, hforward, hbackward, List.findSome?_map,
      List.map_findSome?]
    refine findSome?_congr fun index hmem => ?_
    have hindex := List.mem_range.1 hmem
    rw [Function.comp_apply, Function.comp_apply, segmentAt?_reverse hindex]
    cases hsegment : m.segmentAt? (m.headers.length - 1 - index) with
    | none => rfl
    | some s =>
      rcases segmentAt?_eq_some_iff.1 hsegment with ⟨h, hs⟩
      have hback : (s.numbered index).numbered (m.headers.length - 1 - index) = s := by
        rw [← hs.index]
        rfl
      rw [Option.map_some, Option.filter_some, Option.filter_some]
      -- Whether a segment is accepted does not depend on its number.
      show _ = Option.map _ (if policy.accepts s.protection requested && s.range.containsRange query
        then some (s.numbered index) else none)
      split
      · rw [Option.map_some]
        exact congrArg some hback.symm
      · rfl

/-! ## Any order of the table -/

/-- With steps of one, whether a range is covered depends neither on the direction of the walk nor
on the order of the table: it is so exactly if some entry covers it. Longer steps find nothing that
steps of one do not find. Which segment is found first is a matter of the walk, and from the last
entry down it is the one that is found first in the reversed table. -/
theorem containsSegment_of_perm (hperm : m.headers.Perm table) (v : Address) (n : Nat)
    (requested : Protection) :
    (∀ d, m.containsSegment v n requested { direction := d } = true ↔
      ∃ h ∈ m.headers, m.Answers h v n requested .subset) ∧
    (∀ d d', (m.withHeaders table).containsSegment v n requested { direction := d } =
      m.containsSegment v n requested { direction := d' }) ∧
    (∀ policy, m.findSegment? v n requested { direction := .backward } policy =
      ((m.withHeaders m.headers.reverse).findSegment? v n requested { direction := .forward }
        policy).map fun s => { s with index := m.headers.length - 1 - s.index }) ∧
    ∀ step, m.containsSegment v n requested step = true →
      ∀ d, m.containsSegment v n requested { direction := d } = true := by
  refine ⟨fun d => containsSegment_iff rfl, ?_, fun policy => findSegment?_backward, ?_⟩
  · intro d d'
    rw [Bool.eq_iff_iff, containsSegment_withHeaders_iff hperm rfl, containsSegment_iff rfl]
  · intro step hfound d
    rcases containsSegment_iff_visits.1 hfound with ⟨k, index, h, _, hheader, hanswers⟩
    exact (containsSegment_iff rfl).2 ⟨h, List.mem_of_getElem? hheader, hanswers⟩

/-- The entries of `overlappingImage`, with the last one in front of the others. -/
def shuffledHeaders : List Elf.ProgramHeader :=
  [⟨1, 6, 0, 0x5000, 0x1000, 0x1000⟩, ⟨1, 5, 0, 0x1000, 0x2000, 0x2000⟩,
    ⟨2, 7, 0, 0x1000, 0x9000, 0x9000⟩, ⟨1, 0x105, 0x1000, 0x2000, 0x800, 0x1000⟩]

/-- Two entries answer here, and the walk down finds the later one. A walk that leaves out every
other entry finds the first, so the full walks find one as well, also in the shuffled table. -/
theorem containsSegment_of_perm_overlappingImage :
    overlappingImage.headers.Perm shuffledHeaders ∧
      overlappingImage.containsSegment (.ofNat 0x7f0000001800) 0x800 ⟨true, false, true⟩
        ⟨.forward, 2, by decide⟩ = true ∧
      (overlappingImage.withHeaders shuffledHeaders).containsSegment (.ofNat 0x7f0000001800) 0x800
        ⟨true, false, true⟩ { direction := .backward } = true ∧
      ((overlappingImage.withHeaders overlappingImage.headers.reverse).findSegment?
        (.ofNat 0x7f0000001800) 0x800 ⟨true, false, true⟩ { direction := .forward } .exact).map
          (fun s => { s with index := 3 - s.index }) = some overlappingSegment := by
  have hperm : overlappingImage.headers.Perm shuffledHeaders := by decide
  have hskipping : overlappingImage.containsSegment (.ofNat 0x7f0000001800) 0x800
      ⟨true, false, true⟩ ⟨.forward, 2, by decide⟩ = true := by
    decide +kernel
  have hbackward : overlappingImage.findSegment? (.ofNat 0x7f0000001800) 0x800
      ⟨true, false, true⟩ { direction := .backward } .exact = some overlappingSegment := by
    decide +kernel
  rcases containsSegment_of_perm hperm (.ofNat 0x7f0000001800) 0x800 ⟨true, false, true⟩ with
    ⟨_, hsame, hfirst, hlonger⟩
  refine ⟨hperm, hskipping, ?_, ?_⟩
  · rw [hsame .backward .forward]
    exact hlonger _ hskipping .forward
  · exact (hfirst .exact).symm.trans hbackward

end Image

end CodeSurvey
