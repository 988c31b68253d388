import CodeSurvey.Proofs.Encoding.Reading
import CodeSurvey.Proofs.Image.Placement

/-!
# Parts of a survey

What a survey holds, and how its hits are put together.

* `Survey.parts_of_ofImage` : the executable segments, each with the code that the file has for it;
* `Image.pairwise_index_executableSegments` : no two segments share an index;
* `Hit.IsStablySorted` : in address order, and in the old order at each address;
* `Query.hitsIn_countedTo` : what is found does not depend on the segment that it is counted to;
* `Survey.hits_filter_segment` : the hits of one segment are those in its code.
-/

namespace CodeSurvey

/-! ## Segments -/

namespace Image

/-- The segments come in the order of their entries in the table. -/
theorem pairwise_index_segments (m : Image) :
    (m.segments.map Segment.index).Pairwise (· < ·) := by
  rw [List.pairwise_map, segments, List.pairwise_filterMap]
  refine List.pairwise_lt_range.imp ?_
  intro a b hab s hs t ht
  rcases segmentAt?_eq_some_iff.1 hs with ⟨_, hs⟩
  rcases segmentAt?_eq_some_iff.1 ht with ⟨_, ht⟩
  rw [hs.index, ht.index]
  exact hab

theorem pairwise_index_executableSegments (m : Image) :
    (m.executableSegments.map Segment.index).Pairwise (· < ·) :=
  m.pairwise_index_segments.sublist (List.filter_sublist.map _)

end Image

namespace Survey

/-- What pairs each element with its result has the elements in order, each with its result. -/
theorem mapM_pairs {ε α β : Type} {f : α → Except ε β} {l : List α} {out : List (α × β)}
    (h : (l.mapM fun a => do
      let b ← f a
      return (a, b)) = .ok out) :
    out.map Prod.fst = l ∧ ∀ p ∈ out, f p.1 = .ok p.2 := by
  induction l generalizing out with
  | nil =>
    cases h
    exact ⟨rfl, by simp⟩
  | cons a l ih =>
    rw [List.mapM_cons] at h
    rcases Except.bind_eq_ok_iff.1 h with ⟨p, hp, htail⟩
    rcases Except.bind_eq_ok_iff.1 hp with ⟨b, hb, hpair⟩
    rcases Except.bind_eq_ok_iff.1 htail with ⟨rest, hrest, hcons⟩
    cases hpair
    cases hcons
    rcases ih hrest with ⟨hfirsts, hresults⟩
    refine ⟨by rw [List.map_cons, hfirsts], ?_⟩
    intro p hmem
    rcases List.mem_cons.1 hmem with rfl | hmem
    · exact hb
    · exact hresults p hmem

theorem mapM_pairs_eq_ok {ε α β : Type} {f : α → Except ε β} {out : List (α × β)}
    (h : ∀ p ∈ out, f p.1 = .ok p.2) :
    ((out.map Prod.fst).mapM fun a => do
      let b ← f a
      return (a, b)) = .ok out := by
  induction out with
  | nil => rfl
  | cons p out ih =>
    have hhead := h p List.mem_cons_self
    have htail := ih fun p' hp => h p' (List.mem_cons_of_mem p hp)
    rw [List.map_cons, List.mapM_cons, hhead, htail]
    rfl

/-- A survey has the executable segments in table order, each with the code of the file. -/
theorem parts_of_ofImage {m : Image} {data : List UInt8} {s : Survey}
    (h : ofImage m data = .ok s) :
    s.parts.map Prod.fst = m.executableSegments ∧
      ∀ part ∈ s.parts, Image.segmentCode part.1 data = .ok part.2 := by
  rcases Except.bind_eq_ok_iff.1 h with ⟨parts, hparts, hs⟩
  cases hs
  exact mapM_pairs hparts

/-- If the file has code for every executable segment, there is a survey, and it has that code. -/
theorem ofImage_of_parts {m : Image} {data : List UInt8} {parts : List (Segment × Code)}
    (hsegments : parts.map Prod.fst = m.executableSegments)
    (hcodes : ∀ part ∈ parts, Image.segmentCode part.1 data = .ok part.2) :
    ofImage m data = .ok ⟨defaultOptions, parts⟩ := by
  rw [ofImage, ← hsegments, mapM_pairs_eq_ok hcodes]
  rfl

theorem mem_executableSegments_of_part {m : Image} {data : List UInt8} {s : Survey}
    (h : ofImage m data = .ok s) {segment : Segment} {c : Code} (hpart : (segment, c) ∈ s.parts) :
    segment ∈ m.executableSegments := by
  rw [← (parts_of_ofImage h).1]
  exact List.mem_map_of_mem hpart

theorem exists_part_of_mem_executableSegments {m : Image} {data : List UInt8} {s : Survey}
    (h : ofImage m data = .ok s) {segment : Segment} (hsegment : segment ∈ m.executableSegments) :
    ∃ c, (segment, c) ∈ s.parts := by
  rw [← (parts_of_ofImage h).1] at hsegment
  rcases List.mem_map.1 hsegment with ⟨⟨segment, c⟩, hpart, rfl⟩
  exact ⟨c, hpart⟩

theorem pairwise_index_parts {m : Image} {data : List UInt8} {s : Survey}
    (h : ofImage m data = .ok s) :
    s.parts.Pairwise fun p q => p.1.index < q.1.index := by
  have hindices := m.pairwise_index_executableSegments
  rw [← (parts_of_ofImage h).1, List.map_map, List.pairwise_map] at hindices
  exact hindices

end Survey

/-! ## Order of hits -/

namespace Hit

/-- The same hits in address order, hits at one address in the order they came. -/
structure IsStablySorted (hits sorted : List Hit) : Prop where
  perm : sorted.Perm hits
  ordered : sorted.Pairwise fun h k => h.address ≤ k.address
  stable : ∀ a, sorted.filter (fun h => h.address = a) = hits.filter (fun h => h.address = a)

theorem address_le_trans (h k l : Hit) (hk : decide (h.address ≤ k.address) = true)
    (kl : decide (k.address ≤ l.address) = true) : decide (h.address ≤ l.address) = true := by
  simp only [decide_eq_true_eq, Address.le_iff] at hk kl ⊢
  exact Nat.le_trans hk kl

theorem address_le_total (h k : Hit) :
    (decide (h.address ≤ k.address) || decide (k.address ≤ h.address)) = true := by
  simpa [Address.le_iff] using Nat.le_total h.address.toNat k.address.toNat

theorem pairwise_sortByAddress (hits : List Hit) :
    (sortByAddress hits).Pairwise fun h k => h.address ≤ k.address := by
  have hsorted := List.pairwise_mergeSort address_le_trans address_le_total hits
  simpa [sortByAddress] using hsorted

/-- Sorting moves no two hits past each other that are in order already. -/
theorem filter_sortByAddress {wanted : Hit → Bool} {hits : List Hit}
    (h : (hits.filter wanted).Pairwise fun h k => h.address ≤ k.address) :
    (sortByAddress hits).filter wanted = hits.filter wanted := by
  have hperm : ((sortByAddress hits).filter wanted).Perm (hits.filter wanted) :=
    (List.mergeSort_perm hits _).filter wanted
  -- What is in order already is found in the sorted list in the same order.
  have hinside : (hits.filter wanted).Sublist (sortByAddress hits) :=
    List.sublist_mergeSort address_le_trans address_le_total (by simpa using h)
      List.filter_sublist
  have hsub : (hits.filter wanted).Sublist ((sortByAddress hits).filter wanted) := by
    simpa [List.filter_filter] using hinside.filter wanted
  exact (hsub.eq_of_length hperm.length_eq.symm).symm

/-- Changing hits without changing the order of their addresses does not change how they are
sorted. -/
theorem sortByAddress_map {hits : List Hit} {f : Hit → Hit}
    (h : ∀ k ∈ hits, ∀ l ∈ hits, (k.address ≤ l.address ↔ (f k).address ≤ (f l).address)) :
    sortByAddress (hits.map f) = (sortByAddress hits).map f := by
  refine (List.map_mergeSort ?_).symm
  intro k hk l hl
  exact decide_eq_decide.2 (h k hk l hl)

theorem isStablySorted_sortByAddress (hits : List Hit) :
    IsStablySorted hits (sortByAddress hits) := by
  refine ⟨List.mergeSort_perm hits _, pairwise_sortByAddress hits, ?_⟩
  intro a
  refine filter_sortByAddress (List.pairwise_of_forall_mem_list ?_)
  intro h hh k hk
  have hha : h.address = a := by simpa using (List.mem_filter.1 hh).2
  have hka : k.address = a := by simpa using (List.mem_filter.1 hk).2
  rw [hha, hka]
  exact Nat.le_refl _

end Hit

/-! ## The segment of a hit -/

/-- The same hit, counted to segment `n`. -/
def Hit.countedTo (k : Hit) (n : Nat) : Hit :=
  { k with segment := n }

namespace Query

variable {q : Query} {o : ScanOptions} {c : Code} {h : Hit}

/-- What is found does not depend on the segment that it is counted to. -/
theorem firstHit?_segment (q : Query) (o : ScanOptions) (segmentAt segmentAt' : Address → Nat)
    (c : Code) :
    q.firstHit? o segmentAt' c =
      (q.firstHit? o segmentAt c).map fun k => k.countedTo (segmentAt' k.address) := by
  cases q with
  | calls target =>
    simp only [firstHit?, Option.map_map]
    rfl
  | leas displacement =>
    simp only [firstHit?, Option.map_map]
    rfl
  | prologues mode =>
    simp only [firstHit?, Option.map_map]
    rfl

theorem segment_of_firstHit? {segmentAt : Address → Nat}
    (hfirst : q.firstHit? o segmentAt c = some h) : h.segment = segmentAt h.address := by
  rw [firstHit?_segment q o segmentAt segmentAt c] at hfirst
  rcases Option.map_eq_some_iff.1 hfirst with ⟨k, _, rfl⟩
  rfl

/-- Where the search goes on behind a hit is no matter of its segment. -/
theorem resumeAt_countedTo (q : Query) (c : Code) (k : Hit) (n : Nat) :
    q.resumeAt c (k.countedTo n) = q.resumeAt c k := by
  cases q with
  | calls target => rfl
  | leas displacement => rfl
  | prologues mode => rfl

/-- Nor are all hits, in any round. -/
theorem hitsFrom_countedTo (q : Query) (o : ScanOptions) (segment segment' : Nat) (c : Code)
    (rounds : Nat) (rest : Code) :
    q.hitsFrom o segment' c rounds rest =
      (q.hitsFrom o segment c rounds rest).map fun k => k.countedTo segment' := by
  induction rounds generalizing rest with
  | zero => rfl
  | succ n ih =>
    have hsame := firstHit?_segment q o (fun _ => segment) (fun _ => segment') rest
    cases hfirst : q.firstHit? o (fun _ => segment) rest with
    | none =>
      rw [hfirst, Option.map_none] at hsame
      simp [hitsFrom, hfirst, hsame]
    | some k =>
      rw [hfirst, Option.map_some] at hsame
      simp [hitsFrom, hfirst, hsame, resumeAt_countedTo, ih]

theorem hitsIn_countedTo (q : Query) (o : ScanOptions) (segment segment' : Nat) (c : Code) :
    q.hitsIn o segment' c = (q.hitsIn o segment c).map fun k => k.countedTo segment' :=
  q.hitsFrom_countedTo o segment segment' c (c.length + 1) c

end Query

/-! ## Hits of one segment -/

theorem Query.segment_of_mem_hitsFrom {q : Query} {o : ScanOptions} {segment : Nat} {c rest : Code}
    {rounds : Nat} {h : Hit} (hmem : h ∈ q.hitsFrom o segment c rounds rest) :
    h.segment = segment := by
  induction rounds generalizing rest with
  | zero => simp [hitsFrom] at hmem
  | succ n ih =>
    cases hfirst : q.firstHit? o (fun _ => segment) rest with
    | none => simp [hitsFrom, hfirst] at hmem
    | some k =>
      simp only [hitsFrom, hfirst, List.mem_cons] at hmem
      rcases hmem with rfl | hmem
      · cases q with
        | calls target =>
          rcases Option.map_eq_some_iff.1 hfirst with ⟨i, _, rfl⟩
          rfl
        | leas displacement =>
          rcases Option.map_eq_some_iff.1 hfirst with ⟨i, _, rfl⟩
          rfl
        | prologues mode =>
          rcases Option.map_eq_some_iff.1 hfirst with ⟨a, _, rfl⟩
          rfl
      · exact ih hmem

namespace Survey

/-- The hits of one part among those of all. -/
theorem flatMap_filter_segment {parts : List (Segment × Code)} {f : Segment × Code → List Hit}
    (hparts : parts.Pairwise fun p q => p.1.index < q.1.index)
    (hsegment : ∀ p ∈ parts, ∀ h ∈ f p, h.segment = p.1.index) {part : Segment × Code}
    (hmem : part ∈ parts) :
    (parts.flatMap f).filter (fun h => h.segment = part.1.index) = f part := by
  rcases List.append_of_mem hmem with ⟨pre, post, rfl⟩
  rcases List.pairwise_append.1 hparts with ⟨_, hbehind, hfront⟩
  -- Every other part has another index, and none of its hits passes.
  have hnone (others : List (Segment × Code)) (hin : ∀ p ∈ others, p ∈ pre ++ part :: post)
      (hne : ∀ p ∈ others, p.1.index ≠ part.1.index) :
      (others.flatMap f).filter (fun h => h.segment = part.1.index) = [] := by
    refine List.filter_eq_nil_iff.2 ?_
    intro h hh
    rcases List.mem_flatMap.1 hh with ⟨p, hp, hhp⟩
    rw [hsegment p (hin p hp) h hhp]
    simpa using hne p hp
  have hall : (f part).filter (fun h => h.segment = part.1.index) = f part := by
    refine List.filter_eq_self.2 ?_
    intro h hh
    simpa using hsegment part hmem h hh
  have hpre := hnone pre (fun p hp => List.mem_append_left _ hp) fun p hp =>
    Nat.ne_of_lt (hfront p hp part List.mem_cons_self)
  have hpost := hnone post
    (fun p hp => List.mem_append_right _ (List.mem_cons_of_mem _ hp)) fun p hp =>
    Nat.ne_of_gt ((List.pairwise_cons.1 hbehind).1 p hp)
  rw [List.flatMap_append, List.flatMap_cons, List.filter_append, List.filter_append, hpre, hall,
    hpost, List.nil_append, List.append_nil]

/-- The hits of one segment are those in its code, if the search gives them in address order. -/
theorem hits_filter_segment {m : Image} {data : List UInt8} {s : Survey}
    (h : ofImage m data = .ok s) (o : ScanOptions) (q : Query) {part : Segment × Code}
    (hmem : part ∈ s.parts)
    (hordered : (q.hitsIn o part.1.index part.2).Pairwise fun h k => h.address ≤ k.address) :
    ((s.withOptions o).hits q).filter (fun h => h.segment = part.1.index) =
      q.hitsIn o part.1.index part.2 := by
  have hpart := flatMap_filter_segment (f := fun p => q.hitsIn o p.1.index p.2)
    (pairwise_index_parts h) (fun p _ k hk => Query.segment_of_mem_hitsFrom hk) hmem
  calc
    ((s.withOptions o).hits q).filter (fun h => h.segment = part.1.index) =
        (s.parts.flatMap fun p => q.hitsIn o p.1.index p.2).filter
          fun h => h.segment = part.1.index := by
      refine Hit.filter_sortByAddress ?_
      exact hpart.symm ▸ hordered
    _ = q.hitsIn o part.1.index part.2 := hpart

/-- Without their order, the hits of one segment are those in its code, whatever is searched for. -/
theorem mem_hits_segment_iff {m : Image} {data : List UInt8} {s : Survey}
    (h : ofImage m data = .ok s) (o : ScanOptions) (q : Query) {part : Segment × Code}
    (hmem : part ∈ s.parts) {k : Hit} :
    k ∈ (s.withOptions o).hits q ∧ k.segment = part.1.index ↔
      k ∈ q.hitsIn o part.1.index part.2 := by
  have hpart := flatMap_filter_segment (f := fun p => q.hitsIn o p.1.index p.2)
    (pairwise_index_parts h) (fun p _ k hk => Query.segment_of_mem_hitsFrom hk) hmem
  have hperm : ((s.withOptions o).hits q).Perm
      (s.parts.flatMap fun p => q.hitsIn o p.1.index p.2) :=
    List.mergeSort_perm _ _
  rw [hperm.mem_iff, ← hpart, List.mem_filter, decide_eq_true_iff]

end Survey

end CodeSurvey
