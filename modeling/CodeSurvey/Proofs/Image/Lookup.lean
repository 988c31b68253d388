import CodeSurvey.Image.Lookup
import CodeSurvey.Proofs.Address
import CodeSurvey.Proofs.Image.Placement

/-!
# Looking segments up

Which segment a lookup gives, said with the numbers of the program header table.

* `SegmentStep.Visits s length k index` : the walk through the table comes to an entry as number
  `k`;
* `FlagMatch.Allows policy word requested` : a flag word against a request, bit by bit;
* `Image.Answers` : the memory of an entry covers a range, and its flag word is accepted;
* `Image.findSegment?_first_in_order` : a lookup gives the segment of the first entry on the walk
  that answers.
-/

namespace CodeSurvey

/-! ## The walk -/

/-- Entry `index` comes as number `k`, counted from zero, of the walk through a table: every
`stride`-th entry from the first one up, or from the last one down. -/
def SegmentStep.Visits (s : SegmentStep) (length k index : Nat) : Prop :=
  match s.direction with
  | .forward => index = k * s.stride ∧ index < length
  | .backward => index + k * s.stride + 1 = length

theorem SegmentStep.getElem?_indices (s : SegmentStep) (length k index : Nat) :
    (s.indices length)[k]? = some index ↔ s.Visits length k index := by
  -- There are as many multiples of the stride below the length as the table has room for.
  have hcount : k < (length + s.stride - 1) / s.stride ↔ k * s.stride < length := by
    have hpos := s.stride_pos
    rw [Nat.lt_iff_add_one_le, Nat.le_div_iff_mul_le hpos, Nat.add_mul, Nat.one_mul]
    omega
  have hmultiples : ((List.range ((length + s.stride - 1) / s.stride)).map
      fun n => n * s.stride)[k]? = if k * s.stride < length then some (k * s.stride) else none := by
    rw [List.getElem?_map]
    by_cases hk : k * s.stride < length
    · rw [List.getElem?_range (hcount.2 hk), if_pos hk]
      rfl
    · have hlen : (List.range ((length + s.stride - 1) / s.stride)).length ≤ k := by
        rw [List.length_range]
        exact Nat.le_of_not_lt (mt hcount.1 hk)
      rw [List.getElem?_eq_none hlen, if_neg hk]
      rfl
  cases hdirection : s.direction with
  | forward =>
    simp only [indices, Visits, hdirection, hmultiples]
    split
    · simp only [Option.some.injEq]
      omega
    · simp only [reduceCtorEq, false_iff]
      omega
  | backward =>
    simp only [indices, Visits, hdirection, List.getElem?_map, hmultiples]
    split
    · simp only [Option.map_some, Option.some.injEq]
      omega
    · simp only [Option.map_none, reduceCtorEq, false_iff]
      omega

/-- A search through a list gives the result of the first position that has one. -/
theorem findSome?_eq_some_iff_getElem? {α β : Type} {f : α → Option β} {l : List α} {b : β} :
    l.findSome? f = some b ↔
      ∃ (k : Nat) (a : α), l[k]? = some a ∧ f a = some b ∧
        ∀ j < k, ∀ x, l[j]? = some x → f x = none := by
  rw [List.findSome?_eq_some_iff]
  constructor
  · rintro ⟨front, a, back, rfl, ha, hfront⟩
    refine ⟨front.length, a, by simp, ha, ?_⟩
    intro j hj x hx
    rw [List.getElem?_append_left hj] at hx
    exact hfront x (List.mem_of_getElem? hx)
  · rintro ⟨k, a, hk, ha, hbefore⟩
    rcases List.getElem?_eq_some_iff.1 hk with ⟨hlt, hget⟩
    refine ⟨l.take k, a, l.drop (k + 1), ?_, ha, ?_⟩
    · rw [← hget, List.getElem_cons_drop, List.take_append_drop]
    · intro x hx
      rcases List.mem_iff_getElem?.1 hx with ⟨j, hj⟩
      have hjk : j < k := by
        have hlen := (List.getElem?_eq_some_iff.1 hj).1
        rw [List.length_take] at hlen
        omega
      rw [List.getElem?_take_of_lt hjk] at hj
      exact hbefore j hjk x hj

/-! ## Answers -/

/-- A flag word against a request: every requested permission is in it, or its permissions are the
requested ones. Its other bits mean nothing. -/
def FlagMatch.Allows (policy : FlagMatch) (word : Nat) (requested : Protection) : Prop :=
  match policy with
  | .subset =>
    (requested.read = true → word.testBit 2 = true) ∧
      (requested.write = true → word.testBit 1 = true) ∧
        (requested.execute = true → word.testBit 0 = true)
  | .exact =>
    requested.read = word.testBit 2 ∧ requested.write = word.testBit 1 ∧
      requested.execute = word.testBit 0

theorem FlagMatch.accepts_iff {policy : FlagMatch} {word : Nat} {requested : Protection} :
    policy.accepts ⟨word.testBit 2, word.testBit 1, word.testBit 0⟩ requested = true ↔
      policy.Allows word requested := by
  rcases requested with ⟨read, write, execute⟩
  cases policy with
  | subset =>
    have himp (p q : Bool) : (!p || q) = true ↔ (p = true → q = true) := by
      cases p <;> simp
    simp only [accepts, Allows, Protection.includes, Bool.and_eq_true, himp, and_assoc]
  | exact =>
    simp only [accepts, Allows, beq_iff_eq, Protection.mk.injEq]
    constructor
    · rintro ⟨hr, hw, hx⟩
      exact ⟨hr.symm, hw.symm, hx.symm⟩
    · rintro ⟨hr, hw, hx⟩
      exact ⟨hr.symm, hw.symm, hx.symm⟩

/-- The entry is loaded and ends at an address, the policy accepts its flag word, and its memory
holds the `n` addresses from `v` on. -/
structure Image.Answers (m : Image) (h : Elf.ProgramHeader) (v : Address) (n : Nat)
    (requested : Protection) (policy : FlagMatch) : Prop where
  allowed : policy.Allows h.flags requested
  covered : ∃ start stop, m.Places h start stop ∧ start ≤ v.toNat ∧ v.toNat + n ≤ stop

theorem AddressRange.containsRange_iff {r s : AddressRange} :
    r.containsRange s = true ↔ r.start.toNat ≤ s.start.toNat ∧ s.stop.toNat ≤ r.stop.toNat := by
  rw [containsRange, Bool.and_eq_true, decide_eq_true_iff, decide_eq_true_iff]
  exact Iff.rfl

/-- To cover a range by its ends is to cover each of its addresses, if it has one. -/
theorem Segment.covers_iff {s : Segment} {v : Address} {n : Nat} (hn : 1 ≤ n) :
    s.start.toNat ≤ v.toNat ∧ v.toNat + n ≤ s.stop.toNat ↔
      ∀ a : Address, v.toNat ≤ a.toNat → a.toNat < v.toNat + n → s.contains a = true := by
  have hcontains (a : Address) : s.contains a = true ↔
      s.start.toNat ≤ a.toNat ∧ a.toNat < s.stop.toNat := Address.isWithin_iff
  constructor
  · rintro ⟨hlow, hhigh⟩ a hva han
    exact (hcontains a).2 ⟨by omega, by omega⟩
  · intro hall
    have hfirst := (hcontains v).1 (hall v (Nat.le_refl _) (by omega))
    refine ⟨hfirst.1, Nat.le_of_not_lt ?_⟩
    intro hbeyond
    -- The end of the segment is an address, and would lie in the segment.
    have hend := (hcontains s.stop).1 (hall s.stop (by omega) (by omega))
    omega

namespace Image

variable {m : Image} {v : Address} {n : Nat} {requested : Protection} {policy : FlagMatch}

/-- One entry on the walk. -/
theorem filter_segmentAt?_eq_some_iff {query : AddressRange} {index : Nat} {s : Segment}
    (hquery : AddressRange.ofSize v n = .ok query) :
    ((m.segmentAt? index).filter fun s =>
        policy.accepts s.protection requested && s.range.containsRange query) = some s ↔
      ∃ h, m.headers[index]? = some h ∧ m.Answers h v n requested policy ∧
        m.IsSegmentOf index h s := by
  rcases AddressRange.ofSize_eq_ok_iff.1 hquery with ⟨hstart, hstop⟩
  have hcovers (s : Segment) : s.range.containsRange query = true ↔
      s.start.toNat ≤ v.toNat ∧ v.toNat + n ≤ s.stop.toNat := by
    rw [AddressRange.containsRange_iff, hstart, hstop]
    exact Iff.rfl
  rw [Option.filter_eq_some_iff, segmentAt?_eq_some_iff, Bool.and_eq_true, hcovers]
  constructor
  · rintro ⟨⟨h, hs⟩, hallowed, hcovered⟩
    rw [hs.protection, FlagMatch.accepts_iff] at hallowed
    exact ⟨h, hs.header, ⟨hallowed, _, _, hs.places, hcovered⟩, hs⟩
  · rintro ⟨h, _, hanswers, hs⟩
    rcases hanswers.covered with ⟨start, stop, hplaces, hcovered⟩
    rcases hplaces.unique hs.places with ⟨rfl, rfl⟩
    refine ⟨⟨h, hs⟩, ?_, hcovered⟩
    rw [hs.protection, FlagMatch.accepts_iff]
    exact hanswers.allowed

theorem filter_segmentAt?_eq_none_iff {query : AddressRange} {index : Nat}
    (hquery : AddressRange.ofSize v n = .ok query) :
    ((m.segmentAt? index).filter fun s =>
        policy.accepts s.protection requested && s.range.containsRange query) = none ↔
      ∀ h, m.headers[index]? = some h → ¬m.Answers h v n requested policy := by
  rw [Option.eq_none_iff_forall_ne_some]
  constructor
  · intro hnone h hheader hanswers
    rcases hanswers.covered with ⟨start, stop, hplaces, _⟩
    rcases hplaces.exists_segment hheader with ⟨s, hs, _⟩
    exact hnone s ((filter_segmentAt?_eq_some_iff hquery).2 ⟨h, hheader, hanswers, hs⟩)
  · intro hnone s hs
    rcases (filter_segmentAt?_eq_some_iff hquery).1 hs with ⟨h, hheader, hanswers, _⟩
    exact hnone h hheader hanswers

/-- A range that is covered ends at an address. -/
theorem Answers.exists_query {h : Elf.ProgramHeader} (hanswers : m.Answers h v n requested policy) :
    ∃ query, AddressRange.ofSize v n = .ok query := by
  rcases hanswers.covered with ⟨start, stop, hplaces, _, hhigh⟩
  have hfits := hplaces.fits
  refine ⟨⟨v, .ofNat (v.toNat + n)⟩, AddressRange.ofSize_eq_ok_iff.2 ⟨rfl, ?_⟩⟩
  exact Address.toNat_ofNat_of_lt (by omega)

/-! ## The whole walk -/

theorem findSegment?_eq_some_iff {step : SegmentStep} {s : Segment} :
    m.findSegment? v n requested step policy = some s ↔
      ∃ k index h, step.Visits m.headers.length k index ∧ m.headers[index]? = some h ∧
        m.Answers h v n requested policy ∧
        (∀ j < k, ∀ i g, step.Visits m.headers.length j i → m.headers[i]? = some g →
          ¬m.Answers g v n requested policy) ∧
        m.IsSegmentOf index h s := by
  cases hquery : AddressRange.ofSize v n with
  | error e =>
    simp only [findSegment?, hquery, reduceCtorEq, false_iff]
    rintro ⟨k, index, h, _, _, hanswers, _⟩
    rcases hanswers.exists_query with ⟨query, hok⟩
    rw [hquery] at hok
    cases hok
  | ok query =>
    simp only [findSegment?, hquery, findSome?_eq_some_iff_getElem?,
      SegmentStep.getElem?_indices, filter_segmentAt?_eq_some_iff hquery,
      filter_segmentAt?_eq_none_iff hquery]
    constructor
    · rintro ⟨k, index, hvisits, ⟨h, hheader, hanswers, hs⟩, hbefore⟩
      refine ⟨k, index, h, hvisits, hheader, hanswers, ?_, hs⟩
      intro j hj i g hi hg
      exact hbefore j hj i hi g hg
    · rintro ⟨k, index, h, hvisits, hheader, hanswers, hbefore, hs⟩
      refine ⟨k, index, hvisits, ⟨h, hheader, hanswers, hs⟩, ?_⟩
      intro j hj i hi g hg
      exact hbefore j hj i g hi hg

theorem findSegment?_eq_none_iff {step : SegmentStep} :
    m.findSegment? v n requested step policy = none ↔
      ∀ k index h, step.Visits m.headers.length k index → m.headers[index]? = some h →
        ¬m.Answers h v n requested policy := by
  cases hquery : AddressRange.ofSize v n with
  | error e =>
    simp only [findSegment?, hquery, true_iff]
    intro k index h _ _ hanswers
    rcases hanswers.exists_query with ⟨query, hok⟩
    rw [hquery] at hok
    cases hok
  | ok query =>
    simp only [findSegment?, hquery, List.findSome?_eq_none_iff,
      filter_segmentAt?_eq_none_iff hquery]
    constructor
    · intro hnone k index h hvisits hheader
      have hmem := List.mem_of_getElem? ((step.getElem?_indices _ k index).2 hvisits)
      exact hnone index hmem h hheader
    · intro hnone index hmem h hheader
      rcases List.mem_iff_getElem?.1 hmem with ⟨k, hk⟩
      exact hnone k index h ((step.getElem?_indices _ k index).1 hk) hheader

/-- A lookup gives the segment of the first entry on the walk that answers, and nothing exactly if
no entry on it does or the range goes beyond the last address. An entry covers a range by its ends
exactly if it holds each of the addresses, if there are any. -/
theorem findSegment?_first_in_order (m : Image) (v : Address) (n : Nat) (requested : Protection)
    (step : SegmentStep) (policy : FlagMatch) :
    (∀ s, m.findSegment? v n requested step policy = some s ↔
      ∃ k index h, step.Visits m.headers.length k index ∧ m.headers[index]? = some h ∧
        m.Answers h v n requested policy ∧
        (∀ j < k, ∀ i g, step.Visits m.headers.length j i → m.headers[i]? = some g →
          ¬m.Answers g v n requested policy) ∧
        m.IsSegmentOf index h s) ∧
      (m.findSegment? v n requested step policy = none ↔
        (¬∃ k index h, step.Visits m.headers.length k index ∧ m.headers[index]? = some h ∧
          m.Answers h v n requested policy) ∨ 2 ^ 64 - 1 < v.toNat + n) ∧
      (1 ≤ n → ∀ index h s, m.IsSegmentOf index h s →
        (m.base.toNat + (h.vaddr - m.loadBias) ≤ v.toNat ∧
            v.toNat + n ≤ m.base.toNat + (h.vaddr - m.loadBias) + h.memSize ↔
          ∀ a : Address, v.toNat ≤ a.toNat → a.toNat < v.toNat + n → s.contains a = true)) := by
  refine ⟨fun s => findSegment?_eq_some_iff, ?_, ?_⟩
  · rw [findSegment?_eq_none_iff]
    constructor
    · intro hnone
      refine .inl ?_
      rintro ⟨k, index, h, hvisits, hheader, hanswers⟩
      exact hnone k index h hvisits hheader hanswers
    · intro hnone k index h hvisits hheader hanswers
      rcases hnone with hnone | hbeyond
      · exact hnone ⟨k, index, h, hvisits, hheader, hanswers⟩
      · rcases hanswers.covered with ⟨start, stop, hplaces, _, hhigh⟩
        have hfits := hplaces.fits
        omega
  · intro hn index h s hs
    have hstart := hs.places.start_eq
    have hstop := hs.places.stop_eq
    rw [← Segment.covers_iff hn, ← hstart, ← hstop]

/-- The first and the third entry overlap, and the second one, which spans both, is not loaded. -/
def overlappingImage : Image where
  base := .ofNat 0x7f0000000000
  loadBias := 0x1000
  headers := [⟨1, 5, 0, 0x1000, 0x2000, 0x2000⟩, ⟨2, 7, 0, 0x1000, 0x9000, 0x9000⟩,
    ⟨1, 0x105, 0x1000, 0x2000, 0x800, 0x1000⟩, ⟨1, 6, 0, 0x5000, 0x1000, 0x1000⟩]

/-- The segment of the third entry. -/
def overlappingSegment : Segment :=
  ⟨2, ⟨.ofNat 0x7f0000001000, .ofNat 0x7f0000002000⟩, ⟨true, false, true⟩, 0x1000, 0x800⟩

/-- From the last entry down, the third one is the first to answer, although another one answers
too; nothing is found where only the entry lies that is not loaded. -/
theorem findSegment?_first_in_order_overlapping :
    (∃ k index h, SegmentStep.Visits { direction := .backward } 4 k index ∧
      overlappingImage.headers[index]? = some h ∧
      overlappingImage.Answers h (.ofNat 0x7f0000001800) 0x800 ⟨true, false, true⟩ .exact ∧
      (∀ j < k, ∀ i g, SegmentStep.Visits { direction := .backward } 4 j i →
        overlappingImage.headers[i]? = some g →
          ¬overlappingImage.Answers g (.ofNat 0x7f0000001800) 0x800 ⟨true, false, true⟩ .exact) ∧
      overlappingImage.IsSegmentOf index h overlappingSegment) ∧
      ((¬∃ k index h, SegmentStep.Visits { direction := .backward } 4 k index ∧
          overlappingImage.headers[index]? = some h ∧
          overlappingImage.Answers h (.ofNat 0x7f0000002000) 0x10 {} .subset) ∨
        2 ^ 64 - 1 < (Address.ofNat 0x7f0000002000).toNat + 0x10) ∧
      ∀ a : Address, (Address.ofNat 0x7f0000001800).toNat ≤ a.toNat →
        a.toNat < (Address.ofNat 0x7f0000001800).toNat + 0x800 →
          overlappingSegment.contains a = true := by
  have hthird : overlappingImage.IsSegmentOf 2 ⟨1, 0x105, 0x1000, 0x2000, 0x800, 0x1000⟩
      overlappingSegment :=
    ⟨rfl, rfl, ⟨rfl, by decide, by decide, by decide, by decide⟩, by decide, rfl, rfl⟩
  have hfound : overlappingImage.findSegment? (.ofNat 0x7f0000001800) 0x800 ⟨true, false, true⟩
      { direction := .backward } .exact = some overlappingSegment := by
    decide +kernel
  refine ⟨?_, ?_, ?_⟩
  · exact ((findSegment?_first_in_order overlappingImage _ _ _ _ _).1 _).1 hfound
  · exact (findSegment?_first_in_order overlappingImage _ _ _ _ _).2.1.1 rfl
  · exact ((findSegment?_first_in_order overlappingImage (.ofNat 0x7f0000001800) 0x800 {} {}
      .subset).2.2 (by decide) 2 _ _ hthird).1 (by decide)

end Image

end CodeSurvey
