import CodeSurvey.Proofs.Image.Parts
import CodeSurvey.Proofs.Sweep.Markers
import CodeSurvey.Proofs.Sweep.Policies
import CodeSurvey.Proofs.Sweep.Resumption
import Mathlib.Data.List.Sort

/-!
# Alignment of function starts

A search with an alignment walks past a start that is not aligned, and a search without one gives
that start and is resumed behind it. Where the sweep does not stop, both meet the same steps, and
what the alignment does to all hits is to leave some out.

* `Sweep.starts_eq_filter` : the admitted starts of a sweep are those among all its starts;
* `Query.hitsIn_alignment` : so it is with the hits in the code of a segment;
* `Hit.eq_of_filter_address_eq` : hits in address order are determined by those at each address;
* `Hit.filter_sortByAddress_comm` : it does not matter whether hits are left out before or after
  sorting;
* `Survey.hits_alignment_eq_filter` : so it is with all hits of a survey.
-/

namespace CodeSurvey

/-! ## Starts behind filler -/

/-- The hit lies at a multiple of `n`; every hit does where `n` is 0 or 1. -/
def Hit.IsAlignedTo (n : Nat) (k : Hit) : Prop :=
  n ≤ 1 ∨ n ∣ k.address.toNat

instance (n : Nat) (k : Hit) : Decidable (k.IsAlignedTo n) :=
  inferInstanceAs (Decidable (n ≤ 1 ∨ n ∣ k.address.toNat))

theorem Address.isAligned_iff {a : Address} {n : Nat} :
    a.isAligned n = true ↔ n ≤ 1 ∨ n ∣ a.toNat := by
  rw [isAligned, Bool.or_eq_true, decide_eq_true_iff, beq_iff_eq, Nat.dvd_iff_mod_eq_zero]

/-- Whether a start is admitted has no influence on what comes after it: the flag that the search
goes on with depends on the step alone. -/
theorem Sweep.starts_eq_filter (admits : Address → Bool) (afterFiller : Bool) (l : List Step) :
    starts admits afterFiller l = (starts (fun _ => true) afterFiller l).filter admits := by
  induction l generalizing afterFiller with
  | nil => rfl
  | cons s rest ih =>
    rw [starts, starts, Bool.and_true]
    cases hbehind : !s.isPadding && afterFiller with
    | false => simpa using ih s.isPadding
    | true => cases hadmits : admits s.address <;> simp [hadmits, ih s.isPadding]

/-! ## Hits in the code of a segment -/

/-- Hits at growing addresses are the same if they are the same as a set. -/
theorem Hit.eq_of_mem_iff {hits hits' : List Hit}
    (h : hits.Pairwise fun k l => k.address < l.address)
    (h' : hits'.Pairwise fun k l => k.address < l.address)
    (hmem : ∀ k, k ∈ hits ↔ k ∈ hits') : hits = hits' := by
  have hirrefl : Std.Irrefl fun k l : Hit => k.address < l.address :=
    ⟨fun k => Nat.lt_irrefl k.address.toNat⟩
  have hantisymm : Std.Antisymm fun k l : Hit => k.address < l.address :=
    ⟨fun _ _ hkl hlk => absurd hkl (Nat.lt_asymm hlk)⟩
  exact h.eq_of_mem_iff h' hmem

theorem Code.isMarker_alignment_iff {c : Code} {p : Resync} {n : Nat} {a : Address} :
    c.IsMarker ⟨p, some n⟩ a ↔ c.IsMarker ⟨p, none⟩ a ∧ (n ≤ 1 ∨ n ∣ a.toNat) := by
  simp [IsMarker, Nat.dvd_iff_mod_eq_zero]

namespace Query

theorem hitsIn_padding_alignment (n segment : Nat) (c : Code) :
    (prologues .padding).hitsIn ⟨.byteWise, some n⟩ segment c =
      ((prologues .padding).hitsIn ⟨.byteWise, none⟩ segment c).filter
        fun k => k.IsAlignedTo n := by
  have hall : ScanOptions.admits ⟨.byteWise, none⟩ = fun _ => true := rfl
  have hsome : ScanOptions.admits ⟨.byteWise, some n⟩ =
      (fun k => decide (k.IsAlignedTo n)) ∘ Hit.ofStart segment := by
    funext a
    exact Bool.eq_iff_iff.2 (Address.isAligned_iff.trans decide_eq_true_iff.symm)
  rw [hitsIn_padding rfl, hitsIn_padding rfl, hall, Sweep.starts_eq_filter, List.filter_map, hsome]

theorem hitsIn_landingPad_alignment (n segment : Nat) (c : Code) :
    (prologues .landingPad).hitsIn ⟨.byteWise, some n⟩ segment c =
      ((prologues .landingPad).hitsIn ⟨.byteWise, none⟩ segment c).filter
        fun k => k.IsAlignedTo n := by
  have hordered (alignment : Option Nat) :=
    (prologues .landingPad).pairwise_hitsIn ⟨.byteWise, alignment⟩ segment c
  refine Hit.eq_of_mem_iff (hordered _) ((hordered _).filter _) ?_
  intro k
  rw [List.mem_filter, mem_hitsIn_landingPad_iff, mem_hitsIn_landingPad_iff, decide_eq_true_iff]
  constructor
  · rintro ⟨a, ha, rfl⟩
    rcases Code.isMarker_alignment_iff.1 ha with ⟨hmarker, haligned⟩
    exact ⟨⟨a, hmarker, rfl⟩, haligned⟩
  · rintro ⟨⟨a, hmarker, rfl⟩, haligned⟩
    exact ⟨a, Code.isMarker_alignment_iff.2 ⟨hmarker, haligned⟩, rfl⟩

/-- With an alignment, the starts in the code of a segment are the aligned ones among all. -/
theorem hitsIn_alignment (mode : PrologueMode) (n segment : Nat) (c : Code) :
    (prologues mode).hitsIn ⟨.byteWise, some n⟩ segment c =
      ((prologues mode).hitsIn ⟨.byteWise, none⟩ segment c).filter fun k => k.IsAlignedTo n :=
  match mode with
  | .landingPad => hitsIn_landingPad_alignment n segment c
  | .padding => hitsIn_padding_alignment n segment c

end Query

/-! ## Hits of a survey -/

namespace Hit

/-- A list with the same hits at each address has the first hit too. -/
theorem exists_mem_address {k : Hit} {hits hits' : List Hit}
    (hsame : ∀ a, (k :: hits).filter (fun h => h.address = a) =
      hits'.filter (fun h => h.address = a)) : k ∈ hits' := by
  have hmem : k ∈ (k :: hits).filter fun h => h.address = k.address := by simp
  rw [hsame k.address] at hmem
  exact (List.mem_filter.1 hmem).1

/-- Hits in address order are determined by those at each address. -/
theorem eq_of_filter_address_eq {hits hits' : List Hit}
    (h : hits.Pairwise fun k l => k.address ≤ l.address)
    (h' : hits'.Pairwise fun k l => k.address ≤ l.address)
    (hsame : ∀ a, hits.filter (fun k => k.address = a) = hits'.filter (fun k => k.address = a)) :
    hits = hits' := by
  induction hits generalizing hits' with
  | nil =>
    cases hits' with
    | nil => rfl
    | cons k' rest' => exact absurd (exists_mem_address fun a => (hsame a).symm) List.not_mem_nil
  | cons k rest ih =>
    cases hits' with
    | nil => exact absurd (exists_mem_address hsame) List.not_mem_nil
    | cons k' rest' =>
      rcases List.pairwise_cons.1 h with ⟨hleast, hrest⟩
      rcases List.pairwise_cons.1 h' with ⟨hleast', hrest'⟩
      -- Each first hit is in the other list, and so not below the other first hit.
      have hle : k'.address ≤ k.address := by
        rcases List.mem_cons.1 (exists_mem_address hsame) with rfl | hmem
        · exact Nat.le_refl _
        · exact hleast' k hmem
      have hge : k.address ≤ k'.address := by
        rcases List.mem_cons.1 (exists_mem_address fun a => (hsame a).symm) with rfl | hmem
        · exact Nat.le_refl _
        · exact hleast k' hmem
      have haddress : k'.address = k.address := Address.toNat_inj (Nat.le_antisymm hle hge)
      have hfirst := hsame k.address
      rw [List.filter_cons_of_pos (by simp), List.filter_cons_of_pos (by simpa using haddress)]
        at hfirst
      rcases List.cons.inj hfirst with ⟨rfl, _⟩
      have htails : rest = rest' := by
        refine ih hrest hrest' ?_
        intro a
        have hboth := hsame a
        by_cases hk : k.address = a
        · rw [List.filter_cons_of_pos (by simpa using hk),
            List.filter_cons_of_pos (by simpa using hk)] at hboth
          exact (List.cons.inj hboth).2
        · rwa [List.filter_cons_of_neg (by simpa using hk),
            List.filter_cons_of_neg (by simpa using hk)] at hboth
      rw [htails]

/-- Leaving hits out before sorting gives what leaving them out afterwards gives. -/
theorem filter_sortByAddress_comm (wanted : Hit → Bool) (hits : List Hit) :
    (sortByAddress hits).filter wanted = sortByAddress (hits.filter wanted) := by
  refine eq_of_filter_address_eq ((pairwise_sortByAddress hits).filter wanted)
    (pairwise_sortByAddress _) ?_
  intro a
  calc
    ((sortByAddress hits).filter wanted).filter (fun k => k.address = a) =
        ((sortByAddress hits).filter fun k => k.address = a).filter wanted :=
      List.filter_comm _ _ _
    _ = (hits.filter fun k => k.address = a).filter wanted := by
      rw [(isStablySorted_sortByAddress hits).stable a]
    _ = (hits.filter wanted).filter (fun k => k.address = a) :=
      List.filter_comm _ _ _
    _ = (sortByAddress (hits.filter wanted)).filter (fun k => k.address = a) :=
      ((isStablySorted_sortByAddress _).stable a).symm

end Hit

/-- Where the sweep does not stop, the function starts of a survey with an alignment are the aligned
ones among all function starts, in the same order. -/
theorem Survey.hits_alignment_eq_filter (s : Survey) (mode : PrologueMode) (n : Nat) :
    (s.withOptions ⟨.byteWise, some n⟩).hits (.prologues mode) =
      ((s.withOptions ⟨.byteWise, none⟩).hits (.prologues mode)).filter
        fun k => k.IsAlignedTo n := by
  have hparts : (s.parts.flatMap fun part =>
      (Query.prologues mode).hitsIn ⟨.byteWise, some n⟩ part.1.index part.2) =
        (s.parts.flatMap fun part =>
          (Query.prologues mode).hitsIn ⟨.byteWise, none⟩ part.1.index part.2).filter
            fun k => k.IsAlignedTo n := by
    rw [List.filter_flatMap]
    simp only [Query.hitsIn_alignment mode n]
  calc
    (s.withOptions ⟨.byteWise, some n⟩).hits (.prologues mode) =
        Hit.sortByAddress ((s.parts.flatMap fun part =>
          (Query.prologues mode).hitsIn ⟨.byteWise, none⟩ part.1.index part.2).filter
            fun k => k.IsAlignedTo n) :=
      congrArg Hit.sortByAddress hparts
    _ = ((s.withOptions ⟨.byteWise, none⟩).hits (.prologues mode)).filter
          fun k => k.IsAlignedTo n :=
      (Hit.filter_sortByAddress_comm _ _).symm

end CodeSurvey
