import CodeSurvey.Proofs.Image.Parts
import Mathlib.Order.Monotone.Basic

/-!
# What hits depend on

A survey reads the bytes that the file has for executable segments, and no others. Entries of the
program header table that are not executed matter only in that they are counted.

* `Image.SharesCode m data data'` : two files have the same bytes for every executable entry;
* `Image.SharesCode.exists_segmentCode` : so they have the same code for every executable segment;
* `Elf.InsertsIdle l table` : a table made by putting entries in that are not executed;
* `Elf.IsEmbedding l table ρ` : where the old entries are in it;
* `Image.executableSegments_of_isEmbedding` : the executable segments are the old ones, with new
  indices;
* `Survey.hits_depend_on_code` : what follows for hits.
-/

namespace CodeSurvey

/-! ## Two files -/

/-- Both files have all bytes of each executable entry, and the same ones. -/
def Image.SharesCode (m : Image) (data data' : List UInt8) : Prop :=
  ∀ h ∈ m.headers, h.flags.testBit 0 = true → ∀ start stop, m.Places h start stop →
    h.offset + min h.fileSize h.memSize ≤ data.length ∧
      h.offset + min h.fileSize h.memSize ≤ data'.length ∧
        ∀ n, h.offset ≤ n → n < h.offset + min h.fileSize h.memSize → data[n]? = data'[n]?

theorem Bytes.take_drop_congr {data data' : List UInt8} {offset size : Nat}
    (h : ∀ n, offset ≤ n → n < offset + size → data[n]? = data'[n]?) :
    (data.drop offset).take size = (data'.drop offset).take size := by
  apply List.ext_getElem?
  intro n
  by_cases hn : n < size
  · rw [List.getElem?_take_of_lt hn, List.getElem?_take_of_lt hn, List.getElem?_drop,
      List.getElem?_drop]
    exact h (offset + n) (Nat.le_add_right _ _) (Nat.add_lt_add_left hn _)
  · rw [List.getElem?_take, List.getElem?_take, if_neg hn, if_neg hn]

namespace Image

variable {m : Image} {s : Segment}

/-- The code of a segment is made of the bytes that are the same. -/
theorem SharesCode.exists_segmentCode {data data' : List UInt8} (h : m.SharesCode data data')
    (hs : s ∈ m.executableSegments) :
    ∃ c, segmentCode s data = .ok c ∧ segmentCode s data' = .ok c := by
  rcases mem_executableSegments_iff.1 hs with ⟨header, hs, hexecute⟩
  have hmem : header ∈ m.headers := List.mem_of_getElem? hs.header
  rcases h header hmem hexecute _ _ hs.places with ⟨hlong, hlong', hsame⟩
  rw [← hs.fileOffset, ← hs.fileSize, ← hs.size_eq] at hlong hlong' hsame
  rcases Image.exists_segmentCode (Nat.not_lt_of_le hlong) with ⟨c, hc, hbase, hbytes⟩
  refine ⟨c, hc, segmentCode_eq_ok_iff.2 ⟨hlong', hbase, ?_⟩⟩
  rw [hbytes, Bytes.take_drop_congr hsame]

end Image

/-! ## More entries -/

/-- The entry is not loaded, or not executable. -/
def Elf.ProgramHeader.IsIdle (h : Elf.ProgramHeader) : Prop :=
  h.kind = 1 → h.flags.testBit 0 = false

/-- The second table has the entries of the first one in their order, and idle ones anywhere among
them. -/
inductive Elf.InsertsIdle : List Elf.ProgramHeader → List Elf.ProgramHeader → Prop
  | nil : InsertsIdle [] []
  | keep {l table : List Elf.ProgramHeader} (h : Elf.ProgramHeader) (rest : InsertsIdle l table) :
      InsertsIdle (h :: l) (h :: table)
  | insert {l table : List Elf.ProgramHeader} {h : Elf.ProgramHeader} (idle : h.IsIdle)
      (rest : InsertsIdle l table) : InsertsIdle l (h :: table)

/-- Entry `n` of the first table is entry `ρ n` of the second, and all other entries there are
idle. -/
structure Elf.IsEmbedding (l table : List Elf.ProgramHeader) (ρ : Nat → Nat) : Prop where
  increasing : StrictMono ρ
  kept : ∀ n h, l[n]? = some h → table[ρ n]? = some h
  others : ∀ n h, table[n]? = some h → ¬h.IsIdle → ∃ k, n = ρ k ∧ l[k]? = some h

namespace Elf

variable {l table : List ProgramHeader} {ρ : Nat → Nat}

/-- The first entry stays where it is, and the others go with the rest. -/
def keepFirst (ρ : Nat → Nat) : Nat → Nat
  | 0 => 0
  | n + 1 => ρ n + 1

theorem IsEmbedding.keep (hρ : IsEmbedding l table ρ) (h : ProgramHeader) :
    IsEmbedding (h :: l) (h :: table) (keepFirst ρ) := by
  refine ⟨?_, ?_, ?_⟩
  · refine strictMono_nat_of_lt_succ ?_
    intro n
    cases n with
    | zero => exact Nat.succ_pos (ρ 0)
    | succ n => exact Nat.succ_lt_succ (hρ.increasing (Nat.lt_succ_self n))
  · intro n g hg
    cases n with
    | zero => exact hg
    | succ n => exact hρ.kept n g hg
  · intro n g hg hrun
    cases n with
    | zero => exact ⟨0, rfl, hg⟩
    | succ n =>
      rcases hρ.others n g hg hrun with ⟨k, rfl, hk⟩
      exact ⟨k + 1, rfl, hk⟩

theorem IsEmbedding.insert (hρ : IsEmbedding l table ρ) {h : ProgramHeader} (idle : h.IsIdle) :
    IsEmbedding l (h :: table) fun n => ρ n + 1 := by
  refine ⟨fun a b hab => Nat.succ_lt_succ (hρ.increasing hab), hρ.kept, ?_⟩
  -- The entry in front is idle, and what runs behind it was there before.
  intro n g hg hrun
  cases n with
  | zero =>
    cases hg
    exact absurd idle hrun
  | succ n =>
    rcases hρ.others n g hg hrun with ⟨k, rfl, hk⟩
    exact ⟨k, rfl, hk⟩

theorem InsertsIdle.exists_isEmbedding (h : InsertsIdle l table) : ∃ ρ, IsEmbedding l table ρ := by
  induction h with
  | nil => exact ⟨id, strictMono_id, by simp, by simp⟩
  | keep h _ ih =>
    rcases ih with ⟨ρ, hρ⟩
    exact ⟨keepFirst ρ, hρ.keep h⟩
  | insert idle _ ih =>
    rcases ih with ⟨ρ, hρ⟩
    exact ⟨fun n => ρ n + 1, hρ.insert idle⟩

end Elf

/-! ## Segments of the longer table -/

/-- The same segment as entry `n`. -/
def Segment.numbered (s : Segment) (n : Nat) : Segment :=
  { s with index := n }

/-- Segments that come in the order of their indices are the same if they are the same as a set. -/
theorem Segment.eq_of_mem_iff {l l' : List Segment} (hl : l.Pairwise fun s t => s.index < t.index)
    (hl' : l'.Pairwise fun s t => s.index < t.index) (hmem : ∀ s, s ∈ l ↔ s ∈ l') : l = l' := by
  have hnodup {l : List Segment} (hl : l.Pairwise fun s t => s.index < t.index) : l.Nodup :=
    hl.imp fun hlt heq => Nat.ne_of_lt hlt (congrArg Segment.index heq)
  have hperm : l.Perm l' := (List.perm_ext_iff_of_nodup (hnodup hl) (hnodup hl')).2 hmem
  refine List.Perm.eq_of_pairwise ?_ hl hl' hperm
  intro s t _ _ hst hts
  exact absurd hst (Nat.lt_asymm hts)

namespace Image

variable {m : Image} {table : List Elf.ProgramHeader} {ρ : Nat → Nat} {s : Segment}

/-- Where an entry is in the table has no influence on where its memory is. -/
theorem IsSegmentOf.numbered {m m' : Image} {n n' : Nat} {h : Elf.ProgramHeader}
    (hs : m.IsSegmentOf n h s) (hbase : m'.base = m.base) (hbias : m'.loadBias = m.loadBias)
    (hheader : m'.headers[n']? = some h) : m'.IsSegmentOf n' h (s.numbered n') := by
  have hplaces : m'.Places h s.start.toNat s.stop.toNat :=
    ⟨hs.places.load, hbias ▸ hs.places.above, hbase ▸ hbias ▸ hs.places.start_eq,
      hs.places.stop_eq, hs.places.fits⟩
  exact ⟨hheader, rfl, hplaces, hs.protection, hs.fileOffset, hs.fileSize⟩

/-- The executable segments are the old ones in their order, with the indices of the
longer table. -/
theorem executableSegments_of_isEmbedding (hρ : Elf.IsEmbedding m.headers table ρ) :
    ({ m with headers := table } : Image).executableSegments =
      m.executableSegments.map fun s => s.numbered (ρ s.index) := by
  refine Segment.eq_of_mem_iff (List.pairwise_map.1 (pairwise_index_executableSegments _)) ?_ ?_
  · rw [List.pairwise_map]
    have hordered := List.pairwise_map.1 m.pairwise_index_executableSegments
    exact hordered.imp fun hlt => hρ.increasing hlt
  · intro t
    rw [mem_executableSegments_iff, List.mem_map]
    constructor
    · rintro ⟨h, ht, hexecute⟩
      -- An executable segment is no idle entry, so it was in the table before.
      have hrun : ¬h.IsIdle := by
        intro hidle
        simp [hidle ht.places.load] at hexecute
      rcases hρ.others t.index h ht.header hrun with ⟨k, hk, hheader⟩
      have hs : m.IsSegmentOf k h (t.numbered k) := ht.numbered rfl rfl hheader
      refine ⟨t.numbered k, mem_executableSegments_iff.2 ⟨h, hs, hexecute⟩, ?_⟩
      show t.numbered (ρ k) = t
      rw [← hk]
      rfl
    · rintro ⟨s, hs, rfl⟩
      rcases mem_executableSegments_iff.1 hs with ⟨h, hs, hexecute⟩
      exact ⟨h, hs.numbered rfl rfl (hρ.kept s.index h hs.header), hexecute⟩

theorem segmentCode_numbered_iff {data : List UInt8} {n : Nat} {c : Code} :
    segmentCode (s.numbered n) data = .ok c ↔ segmentCode s data = .ok c := by
  rw [segmentCode_eq_ok_iff, segmentCode_eq_ok_iff]
  exact Iff.rfl

end Image

/-! ## Hits -/

namespace Survey

variable {m : Image} {data data' : List UInt8} {table : List Elf.ProgramHeader} {ρ : Nat → Nat}
  {s : Survey}

theorem exists_parts {l : List Segment} {P : Segment → Code → Prop} (h : ∀ s ∈ l, ∃ c, P s c) :
    ∃ parts : List (Segment × Code), parts.map Prod.fst = l ∧ ∀ part ∈ parts, P part.1 part.2 := by
  induction l with
  | nil => exact ⟨[], rfl, by simp⟩
  | cons s l ih =>
    rcases h s List.mem_cons_self with ⟨c, hc⟩
    rcases ih fun t ht => h t (List.mem_cons_of_mem s ht) with ⟨parts, hfirsts, hparts⟩
    refine ⟨(s, c) :: parts, by rw [List.map_cons, hfirsts], ?_⟩
    intro part hpart
    rcases List.mem_cons.1 hpart with rfl | hpart
    · exact hc
    · exact hparts part hpart

/-- Both files give the same survey. -/
theorem exists_ofImage_of_sharesCode (h : m.SharesCode data data') :
    ∃ s, ofImage m data = .ok s ∧ ofImage m data' = .ok s := by
  rcases exists_parts fun segment hsegment => h.exists_segmentCode hsegment with
    ⟨parts, hsegments, hcodes⟩
  exact ⟨_, ofImage_of_parts hsegments fun part hpart => (hcodes part hpart).1,
    ofImage_of_parts hsegments fun part hpart => (hcodes part hpart).2⟩

/-- A part with the index that its segment has in the longer table. -/
def renumber (ρ : Nat → Nat) (part : Segment × Code) : Segment × Code :=
  (part.1.numbered (ρ part.1.index), part.2)

theorem ofImage_of_isEmbedding (hρ : Elf.IsEmbedding m.headers table ρ)
    (hs : ofImage m data = .ok s) :
    ofImage { m with headers := table } data = .ok ⟨defaultOptions, s.parts.map (renumber ρ)⟩ := by
  rcases parts_of_ofImage hs with ⟨hsegments, hcodes⟩
  refine ofImage_of_parts ?_ ?_
  · rw [Image.executableSegments_of_isEmbedding hρ, ← hsegments, List.map_map, List.map_map]
    rfl
  · intro part hpart
    rcases List.mem_map.1 hpart with ⟨old, hold, rfl⟩
    exact Image.segmentCode_numbered_iff.2 (hcodes old hold)

/-- The file has no more to hold for the longer table. -/
theorem exists_ofImage_of_isEmbedding (hρ : Elf.IsEmbedding m.headers table ρ)
    (hs : ofImage { m with headers := table } data = .ok s) : ∃ s, ofImage m data = .ok s := by
  have hcode : ∀ segment ∈ m.executableSegments, ∃ c, Image.segmentCode segment data = .ok c := by
    intro segment hsegment
    have hlater : segment.numbered (ρ segment.index) ∈
        ({ m with headers := table } : Image).executableSegments := by
      rw [Image.executableSegments_of_isEmbedding hρ]
      exact List.mem_map_of_mem (f := fun s : Segment => s.numbered (ρ s.index)) hsegment
    rcases exists_part_of_mem_executableSegments hs hlater with ⟨c, hpart⟩
    exact ⟨c, Image.segmentCode_numbered_iff.1 ((parts_of_ofImage hs).2 _ hpart)⟩
  rcases exists_parts hcode with ⟨parts, hparts, hall⟩
  exact ⟨_, ofImage_of_parts hparts hall⟩

/-- Parts with new indices give the hits with new indices. -/
theorem hits_renumber (parts : List (Segment × Code)) (ρ : Nat → Nat) (o : ScanOptions)
    (q : Query) :
    hits ⟨o, parts.map (renumber ρ)⟩ q =
      (hits ⟨o, parts⟩ q).map fun k => k.countedTo (ρ k.segment) := by
  have hpart (part : Segment × Code) : q.hitsIn o (ρ part.1.index) part.2 =
      (q.hitsIn o part.1.index part.2).map fun k => k.countedTo (ρ k.segment) := by
    rw [q.hitsIn_countedTo o part.1.index]
    -- All hits in a part have its index, so the new one can be read off the hit.
    refine List.map_congr_left ?_
    intro k hk
    rw [Query.segment_of_mem_hitsFrom hk]
  calc
    hits ⟨o, parts.map (renumber ρ)⟩ q =
        Hit.sortByAddress (parts.flatMap fun part => q.hitsIn o (ρ part.1.index) part.2) := by
      rw [hits, List.flatMap_map]
      rfl
    _ = Hit.sortByAddress ((parts.flatMap fun part => q.hitsIn o part.1.index part.2).map
          fun k => k.countedTo (ρ k.segment)) := by
      simp only [hpart, List.map_flatMap]
    _ = (hits ⟨o, parts⟩ q).map fun k => k.countedTo (ρ k.segment) :=
      Hit.sortByAddress_map fun _ _ _ _ => Iff.rfl

/-- Hits depend on nothing but the bytes that are executed. Two files that agree on these both have
a survey, and all their hits and all their code are the same. If entries that are not executed are
put into the table, there is a survey exactly if there was one, and each hit is counted to the entry
that the one of its segment has become; nothing else about the hits changes. -/
theorem hits_depend_on_code (m : Image) :
    (∀ data data', m.SharesCode data data' →
      ∃ s s', ofImage m data = .ok s ∧ ofImage m data' = .ok s' ∧
        (∀ o q, (s.withOptions o).hits q = (s'.withOptions o).hits q) ∧
          ∀ a, s.codeAt? a = s'.codeAt? a) ∧
      ∀ table, Elf.InsertsIdle m.headers table →
        ∃ ρ : Nat → Nat, StrictMono ρ ∧ (∀ n h, m.headers[n]? = some h → table[ρ n]? = some h) ∧
          ∀ data,
            ((∃ s, ofImage m data = .ok s) ↔
              ∃ s', ofImage { m with headers := table } data = .ok s') ∧
            ∀ s s', ofImage m data = .ok s → ofImage { m with headers := table } data = .ok s' →
              ∀ o q, (s'.withOptions o).hits q =
                ((s.withOptions o).hits q).map fun k => k.countedTo (ρ k.segment) := by
  refine ⟨?_, ?_⟩
  · intro data data' hsame
    rcases exists_ofImage_of_sharesCode hsame with ⟨s, hs, hs'⟩
    exact ⟨s, s, hs, hs', fun _ _ => rfl, fun _ => rfl⟩
  · intro table hinserts
    rcases hinserts.exists_isEmbedding with ⟨ρ, hρ⟩
    refine ⟨ρ, hρ.increasing, hρ.kept, ?_⟩
    intro data
    refine ⟨⟨?_, ?_⟩, ?_⟩
    · rintro ⟨s, hs⟩
      exact ⟨_, ofImage_of_isEmbedding hρ hs⟩
    · rintro ⟨s', hs'⟩
      exact exists_ofImage_of_isEmbedding hρ hs'
    · intro s s' hs hs' o q
      have hparts : s' = ⟨defaultOptions, s.parts.map (renumber ρ)⟩ := by
        rw [ofImage_of_isEmbedding hρ hs] at hs'
        exact (Except.ok.inj hs').symm
      rw [hparts]
      exact hits_renumber s.parts ρ o q

/-- Bytes that are only read, and a call. -/
def guardedImage : Image where
  base := .ofNat 0x400000
  loadBias := 0
  headers := [⟨1, 4, 0, 0, 4, 4⟩, ⟨1, 5, 4, 0x1000, 5, 8⟩]

def guardedData : List UInt8 :=
  [0x01, 0x02, 0x03, 0x04, 0xe8, 0x00, 0x00, 0x00, 0x00]

/-- The same call, with other bytes around it. -/
def otherData : List UInt8 :=
  [0x90, 0x90, 0x90, 0xe8, 0xe8, 0x00, 0x00, 0x00, 0x00, 0xc3]

/-- A note in front, and one more entry, which lies where the executed one does. -/
def longerTable : List Elf.ProgramHeader :=
  [⟨4, 5, 0, 0, 8, 8⟩, ⟨1, 4, 0, 0, 4, 4⟩, ⟨1, 6, 0, 0x1000, 9, 16⟩, ⟨1, 5, 4, 0x1000, 5, 8⟩]

theorem sharesCode_guardedImage : guardedImage.SharesCode guardedData otherData := by
  have hcall : ∀ n < 9, 4 ≤ n → guardedData[n]? = otherData[n]? := by decide
  intro h hmem hexecute start stop _
  rcases List.mem_cons.1 hmem with rfl | hmem
  · exact absurd hexecute (by decide)
  · rcases List.mem_singleton.1 hmem with rfl
    exact ⟨by decide, by decide, fun n hlow hhigh => hcall n hhigh hlow⟩

theorem insertsIdle_longerTable : Elf.InsertsIdle guardedImage.headers longerTable := by
  have hnote : Elf.ProgramHeader.IsIdle ⟨4, 5, 0, 0, 8, 8⟩ := fun hload => absurd hload (by decide)
  have hwritten : Elf.ProgramHeader.IsIdle ⟨1, 6, 0, 0x1000, 9, 16⟩ := fun _ => by decide
  exact .insert hnote (.keep _ (.insert hwritten (.keep _ .nil)))

/-- The call of both files. -/
def guardedHit : Hit :=
  ⟨.call, .ofNat 0x401000, 5, 1, some (.ofNat 0x401005)⟩

/-- The call is found in both files, and with the longer table too. -/
theorem hits_depend_on_code_guardedImage :
    guardedImage.SharesCode guardedData otherData ∧
      Elf.InsertsIdle guardedImage.headers longerTable ∧
      ∃ (s s' t : Survey) (ρ : Nat → Nat), ofImage guardedImage guardedData = .ok s ∧
        ofImage guardedImage otherData = .ok s' ∧
        ofImage { guardedImage with headers := longerTable } guardedData = .ok t ∧
        guardedHit ∈ (s.withOptions {}).hits (.calls none) ∧
        guardedHit ∈ (s'.withOptions {}).hits (.calls none) ∧
        longerTable[ρ 1]? = some ⟨1, 5, 4, 0x1000, 5, 8⟩ ∧
        guardedHit.countedTo (ρ 1) ∈ (t.withOptions {}).hits (.calls none) := by
  rcases hits_depend_on_code guardedImage with ⟨hfiles, htables⟩
  rcases hfiles _ _ sharesCode_guardedImage with ⟨s, s', hs, hs', hhits, _⟩
  rcases htables _ insertsIdle_longerTable with ⟨ρ, _, hkept, hlonger⟩
  rcases hlonger guardedData with ⟨hiff, hcounted⟩
  rcases hiff.1 ⟨s, hs⟩ with ⟨t, ht⟩
  have hsurvey : ofImage guardedImage guardedData = .ok ⟨defaultOptions,
      [(⟨1, ⟨.ofNat 0x401000, .ofNat 0x401008⟩, ⟨true, false, true⟩, 4, 5⟩,
        ⟨.ofNat 0x401000, guardedData.drop 4, by decide⟩)]⟩ := rfl
  have hin : guardedHit ∈ (Query.calls none).hitsIn {} 1
      ⟨.ofNat 0x401000, guardedData.drop 4, by decide⟩ := by
    decide
  have hhit : guardedHit ∈ (s.withOptions {}).hits (.calls none) := by
    rw [hsurvey] at hs
    cases hs
    exact ((mem_hits_segment_iff hsurvey {} (.calls none) List.mem_cons_self).2 hin).1
  refine ⟨sharesCode_guardedImage, insertsIdle_longerTable, s, s', t, ρ, hs, hs', ht, hhit, ?_,
    hkept 1 _ rfl, ?_⟩
  · rw [← hhits]
    exact hhit
  · rw [hcounted s t hs ht]
    exact List.mem_map_of_mem (f := fun k : Hit => k.countedTo (ρ k.segment)) hhit

end Survey

end CodeSurvey
