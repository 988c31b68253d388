import CodeSurvey.Proofs.Image.Placement

/-!
# Overlapping ranges

Whether two ranges have a common address can be asked in two ways. The common part is there exactly
if they have one, and it holds the common addresses and no others. The comparison of the ends alone
says so too, except where one range is empty and lies strictly between the ends of the other.

* `AddressRange.IsBuilt` : what the two constructors make, ranges whose ends are in order;
* `AddressRange.Meets r s` : some address lies in both;
* `AddressRange.Divides r s` : `r` is empty and lies inside `s`, with addresses on either side;
* `AddressRange.overlaps_iff` : what the comparison of the ends says;
* `AddressRange.common_part_of_built` : the three ways of asking, side by side.
-/

namespace CodeSurvey.AddressRange

/-- One of the constructors makes the range. -/
def IsBuilt (r : AddressRange) : Prop :=
  (∃ start stop, make start stop = .ok r) ∨ ∃ start size, ofSize start size = .ok r

/-- Some address lies in both ranges. -/
def Meets (r s : AddressRange) : Prop :=
  ∃ a, r.contains a = true ∧ s.contains a = true

/-- An empty range that lies strictly between the ends of another one. -/
structure Divides (r s : AddressRange) : Prop where
  empty : r.isEmpty = true
  behind_start : s.start < r.start
  before_stop : r.start < s.stop

variable {r s : AddressRange}

/-! ## Construction -/

theorem make_eq_ok_iff {start stop : Address} :
    make start stop = .ok r ↔ start ≤ stop ∧ r = ⟨start, stop⟩ := by
  rw [make]
  split
  · next hinverted => exact iff_of_false (by simp) fun h => Nat.not_le_of_lt hinverted h.1
  · next hordered =>
    rw [Except.ok.injEq, eq_comm]
    exact (and_iff_right (Nat.le_of_not_lt hordered)).symm

/-- The constructors make the ranges whose ends are in order. -/
theorem isBuilt_iff : r.IsBuilt ↔ r.start ≤ r.stop := by
  constructor
  · rintro (⟨start, stop, hmake⟩ | ⟨start, size, hsize⟩)
    · rcases make_eq_ok_iff.1 hmake with ⟨hordered, rfl⟩
      exact hordered
    · rcases ofSize_eq_ok_iff.1 hsize with ⟨hstart, hstop⟩
      rw [Address.le_iff, hstart, hstop]
      exact Nat.le_add_right _ _
  · intro hordered
    exact .inl ⟨r.start, r.stop, make_eq_ok_iff.2 ⟨hordered, rfl⟩⟩

/-! ## Common addresses -/

theorem contains_iff {a : Address} :
    r.contains a = true ↔ r.start.toNat ≤ a.toNat ∧ a.toNat < r.stop.toNat :=
  Address.isWithin_iff

theorem isEmpty_iff : r.isEmpty = true ↔ r.stop.toNat ≤ r.start.toNat := by
  rw [isEmpty, decide_eq_true_iff, Address.le_iff]

/-- The common part goes from the higher start to the lower end. -/
theorem intersection?_eq_some_iff {t : AddressRange} :
    r.intersection? s = some t ↔
      t = ⟨max r.start s.start, min r.stop s.stop⟩ ∧ t.start.toNat < t.stop.toNat := by
  simp only [intersection?, Option.ite_none_right_eq_some, Option.some.injEq, Address.lt_iff]
  constructor
  · rintro ⟨hlt, rfl⟩
    exact ⟨rfl, hlt⟩
  · rintro ⟨rfl, hlt⟩
    exact ⟨hlt, rfl⟩

theorem contains_intersection?_iff {t : AddressRange} (h : r.intersection? s = some t)
    (a : Address) :
    t.contains a = true ↔ r.contains a = true ∧ s.contains a = true := by
  rcases intersection?_eq_some_iff.1 h with ⟨rfl, _⟩
  simp only [contains_iff, Address.toNat_max, Address.toNat_min]
  omega

/-- The higher start is a common address, if there is one. -/
theorem meets_iff :
    r.Meets s ↔ max r.start.toNat s.start.toNat < min r.stop.toNat s.stop.toNat := by
  constructor
  · rintro ⟨a, hr, hs⟩
    rw [contains_iff] at hr hs
    omega
  · intro hlt
    refine ⟨max r.start s.start, ?_, ?_⟩
    · rw [contains_iff, Address.toNat_max]
      omega
    · rw [contains_iff, Address.toNat_max]
      omega

theorem isSome_intersection?_iff : (r.intersection? s).isSome = true ↔ r.Meets s := by
  rw [Option.isSome_iff_exists, meets_iff, ← Address.toNat_max, ← Address.toNat_min]
  constructor
  · rintro ⟨t, ht⟩
    rcases intersection?_eq_some_iff.1 ht with ⟨rfl, hlt⟩
    exact hlt
  · intro hlt
    exact ⟨_, intersection?_eq_some_iff.2 ⟨rfl, hlt⟩⟩

/-! ## Comparison of the ends -/

/-- A range that divides another one has no address at all. -/
theorem Divides.not_meets (h : r.Divides s) : ¬r.Meets s := by
  rintro ⟨a, hr, _⟩
  have hempty := isEmpty_iff.1 h.empty
  have hinside := contains_iff.1 hr
  omega

theorem Meets.symm (h : r.Meets s) : s.Meets r := by
  rcases h with ⟨a, hr, hs⟩
  exact ⟨a, hs, hr⟩

theorem overlaps_eq_true_iff :
    r.overlaps s = true ↔ r.start.toNat < s.stop.toNat ∧ s.start.toNat < r.stop.toNat := by
  rw [overlaps, Bool.and_eq_true, decide_eq_true_iff, decide_eq_true_iff, Address.lt_iff,
    Address.lt_iff]

/-- The ends of two ranges compare like those of overlapping ones if the ranges have a common
address, and if one of them divides the other. -/
theorem overlaps_iff (hr : r.IsBuilt) (hs : s.IsBuilt) :
    r.overlaps s = true ↔ r.Meets s ∨ r.Divides s ∨ s.Divides r := by
  have hordered : r.start.toNat ≤ r.stop.toNat := isBuilt_iff.1 hr
  have hordered' : s.start.toNat ≤ s.stop.toNat := isBuilt_iff.1 hs
  rw [overlaps_eq_true_iff, meets_iff]
  constructor
  · rintro ⟨hleft, hright⟩
    by_cases hempty : r.stop.toNat ≤ r.start.toNat
    · -- All of an empty range is its start, and both comparisons are about that.
      have hbehind : s.start.toNat < r.start.toNat := by omega
      exact .inr (.inl ⟨isEmpty_iff.2 hempty, hbehind, hleft⟩)
    · by_cases hempty' : s.stop.toNat ≤ s.start.toNat
      · have hbehind : r.start.toNat < s.start.toNat := by omega
        exact .inr (.inr ⟨isEmpty_iff.2 hempty', hbehind, hright⟩)
      · exact .inl (by omega)
  · rintro (hmeets | hdivides | hdivides)
    · omega
    · have hbehind := (Address.lt_iff _ _).1 hdivides.behind_start
      have hbefore := (Address.lt_iff _ _).1 hdivides.before_stop
      omega
    · have hbehind := (Address.lt_iff _ _).1 hdivides.behind_start
      have hbefore := (Address.lt_iff _ _).1 hdivides.before_stop
      omega

/-- The common part of two ranges is there exactly if they have a common address, and then it holds
these and no others. The comparison of the ends says the same exactly if neither range is an empty
one inside the other; for those it says yes, although there is no common address. -/
theorem common_part_of_built (hr : r.IsBuilt) (hs : s.IsBuilt) :
    ((r.intersection? s).isSome = true ↔ r.Meets s) ∧
      (∀ t, r.intersection? s = some t →
        ∀ a, t.contains a = true ↔ r.contains a = true ∧ s.contains a = true) ∧
      ((r.overlaps s = true ↔ r.Meets s) ↔ ¬r.Divides s ∧ ¬s.Divides r) ∧
      (r.Divides s ∨ s.Divides r → r.overlaps s = true ∧ ¬r.Meets s) := by
  have hdivided : r.Divides s ∨ s.Divides r → ¬r.Meets s := by
    rintro (hdivides | hdivides)
    · exact hdivides.not_meets
    · exact fun hmeets => hdivides.not_meets hmeets.symm
  refine ⟨isSome_intersection?_iff, fun t ht => contains_intersection?_iff ht, ?_, ?_⟩
  · rw [overlaps_iff hr hs, ← not_or]
    constructor
    · intro hsame hdivides
      exact hdivided hdivides (hsame.1 (.inr hdivides))
    · intro hnone
      exact or_iff_left hnone
  · intro hdivides
    exact ⟨(overlaps_iff hr hs).2 (.inr hdivides), hdivided hdivides⟩

/-- The last addresses there are. -/
def lastPage : AddressRange :=
  ⟨.ofNat 0xfffffffffffff000, .ofNat 0xffffffffffffffff⟩

/-- A range that reaches into them from below. -/
def acrossLastPage : AddressRange :=
  ⟨.ofNat 0xffffffffffffe000, .ofNat 0xfffffffffffff800⟩

theorem common_part_of_built_lastPage :
    lastPage.IsBuilt ∧ acrossLastPage.IsBuilt ∧ lastPage.Meets acrossLastPage ∧
      lastPage.overlaps acrossLastPage = true ∧
      ∀ a, contains ⟨.ofNat 0xfffffffffffff000, .ofNat 0xfffffffffffff800⟩ a = true ↔
        lastPage.contains a = true ∧ acrossLastPage.contains a = true := by
  have hlast : lastPage.IsBuilt := isBuilt_iff.2 (by decide)
  have hacross : acrossLastPage.IsBuilt := isBuilt_iff.2 (by decide)
  rcases common_part_of_built hlast hacross with ⟨hmeets, hcommon, hsame, _⟩
  have hfull : ¬lastPage.Divides acrossLastPage ∧ ¬acrossLastPage.Divides lastPage :=
    ⟨fun h => absurd h.empty (by decide), fun h => absurd h.empty (by decide)⟩
  have hshared := hmeets.1 (by decide)
  exact ⟨hlast, hacross, hshared, (hsame.2 hfull).2 hshared, hcommon _ (by decide)⟩

/-- No addresses, in the middle of a page. -/
def gap : AddressRange :=
  ⟨.ofNat 0x1800, .ofNat 0x1800⟩

def page : AddressRange :=
  ⟨.ofNat 0x1000, .ofNat 0x2000⟩

/-- The two count as overlapping, but have no common part and no common address. -/
theorem overlaps_gap :
    make (.ofNat 0x1800) (.ofNat 0x1800) = .ok gap ∧
      make (.ofNat 0x1000) (.ofNat 0x2000) = .ok page ∧ gap.overlaps page = true ∧
      gap.intersection? page = none ∧ ¬∃ a, gap.contains a = true ∧ page.contains a = true := by
  have hdivides : gap.Divides page := ⟨by decide, by decide, by decide⟩
  exact ⟨rfl, rfl, by decide, by decide, hdivides.not_meets⟩

end CodeSurvey.AddressRange
