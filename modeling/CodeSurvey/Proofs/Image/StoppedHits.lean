import CodeSurvey.Proofs.Image.Parts
import CodeSurvey.Proofs.Sweep.Stop

/-!
# Hits of sweeps that stop

What a survey finds in a segment when its sweeps stop where nothing can be decoded.

* `Survey.hits_of_failsFirstAt` : calls and address loads lie in front of the first fault, and so
  do function starts behind filler unless the fault is one and another follows;
* `Survey.exists_start_behind_fault` : code in which one does follow.
-/

namespace CodeSurvey

namespace Query

variable {o : ScanOptions} {segment : Nat} {c : Code} {u : Address}

theorem starts_le_of_failsFirstAt (hfails : c.FailsFirstAt u) {b : Address}
    (hb : b ∈ Sweep.starts o.admits false (c.linearSweep .stop c.start)) : b ≤ u := by
  have haddress := (Sweep.starts_sublist o.admits false _).subset hb
  rcases List.mem_map.1 haddress with ⟨s, hs, rfl⟩
  rcases hfails.mem_linearSweep hs with rfl | ⟨i, rfl, _⟩
  · exact Nat.le_refl u.toNat
  · exact Nat.le_of_lt (hfails.start_lt hs)

/-- The rounds that begin one byte behind an address find something farther up or nothing. -/
theorem hitsBehind_padding_le_iff (hin : c.contains u = true) :
    (∀ k ∈ (prologues .padding).hitsBehind o segment c (u + 1), k.address ≤ u) ↔
      ¬((c.tailFrom (u + 1)).findAfterPadding? o).isSome = true := by
  rcases Code.toNat_succ_of_contains hin with ⟨hsucc, hend⟩
  have hlo : c.base ≤ u + 1 := by
    have hbounds := (c.contains_iff u).1 hin
    rw [Address.le_iff]
    omega
  have hround : (prologues .padding).firstHit? o (fun _ => segment) (c.tailFrom (u + 1)) =
      ((c.tailFrom (u + 1)).findAfterPadding? o).map (Hit.ofStart segment) := rfl
  cases hfind : (c.tailFrom (u + 1)).findAfterPadding? o with
  | none =>
    rw [hfind, Option.map_none] at hround
    rw [hitsBehind_of_none hround]
    simp
  | some b =>
    rw [hfind, Option.map_some] at hround
    have hbeyond : u.toNat < (Hit.ofStart segment b).address.toNat := by
      have hbounds := firstHit?_bounds (Code.isTail_tailFrom hlo hend) hround
      omega
    rw [hitsBehind_of_some hlo hend hround]
    refine iff_of_false ?_ (fun hnone => hnone rfl)
    intro hall
    have hle : (Hit.ofStart segment b).address.toNat ≤ u.toNat := hall _ List.mem_cons_self
    omega

/-- No start lies behind the fault, unless the fault is one and the search behind it finds one. -/
theorem padding_le_fault_iff (hstop : o.resync = .stop) (hfails : c.FailsFirstAt u) :
    (∀ k ∈ (prologues .padding).hitsIn o segment c, k.address ≤ u) ↔
      ¬(c.FaultIsStart o u ∧ ((c.tailFrom (u + 1)).findAfterPadding? o).isSome = true) := by
  have hlow : c.base ≤ c.start := Nat.le_refl _
  have hrounds : (prologues .padding).hitsIn o segment c =
      (Sweep.starts o.admits false (c.linearSweep .stop c.start)).map (Hit.ofStart segment) ++
        if u ∈ Sweep.starts o.admits false (c.linearSweep .stop c.start) then
          (prologues .padding).hitsBehind o segment c (u + 1)
        else [] := by
    rw [hitsIn_eq_hitsBehind]
    exact hitsBehind_padding_of_failsFrom hstop hlow hfails
  -- What the sweep itself meets lies in front of the fault or is the fault.
  have hmet : ∀ k ∈ (Sweep.starts o.admits false (c.linearSweep .stop c.start)).map
      (Hit.ofStart segment), k.address ≤ u := by
    intro k hk
    rcases List.mem_map.1 hk with ⟨b, hb, rfl⟩
    exact starts_le_of_failsFirstAt hfails hb
  rw [hrounds, ← hfails.mem_starts_iff, List.forall_mem_append, and_iff_right hmet]
  by_cases hstart : u ∈ Sweep.starts o.admits false (c.linearSweep .stop c.start)
  · rw [if_pos hstart, hitsBehind_padding_le_iff hfails.inside, and_iff_right hstart]
  · rw [if_neg hstart]
    exact iff_of_true (by simp) fun hboth => hstart hboth.1

end Query

namespace Survey

/-- Where sweeps stop at what cannot be decoded, calls and `lea`s lie in front of the first such
address. A function start behind filler can lie behind it, and does exactly if the address is itself
one and the search that begins one byte farther finds one. -/
theorem hits_of_failsFirstAt {m : Image} {data : List UInt8} {s : Survey}
    (h : ofImage m data = .ok s) {o : ScanOptions} (hstop : o.resync = .stop) {segment : Segment}
    (hsegment : segment ∈ m.executableSegments) :
    ∃ c, Image.segmentCode segment data = .ok c ∧ ∀ u, c.FailsFirstAt u →
      (∀ target, ∀ k ∈ (s.withOptions o).hits (.calls target),
        k.segment = segment.index → k.address < u) ∧
      (∀ displacement, ∀ k ∈ (s.withOptions o).hits (.leas displacement),
        k.segment = segment.index → k.address < u) ∧
      ((∀ k ∈ (s.withOptions o).hits (.prologues .padding),
          k.segment = segment.index → k.address ≤ u) ↔
        ¬(c.FaultIsStart o u ∧ ((c.tailFrom (u + 1)).findAfterPadding? o).isSome = true)) := by
  rcases parts_of_ofImage h with ⟨hsegments, hcodes⟩
  rw [← hsegments] at hsegment
  rcases List.mem_map.1 hsegment with ⟨⟨segment, c⟩, hpart, rfl⟩
  have hits_iff (q : Query) (k : Hit) :
      k ∈ (s.withOptions o).hits q ∧ k.segment = segment.index ↔ k ∈ q.hitsIn o segment.index c :=
    mem_hits_segment_iff h o q hpart
  refine ⟨c, hcodes _ hpart, ?_⟩
  intro u hfails
  refine ⟨?_, ?_, ?_⟩
  · intro target k hk hindex
    have hin := (hits_iff (.calls target) k).1 ⟨hk, hindex⟩
    rw [Query.hitsIn_calls, hstop] at hin
    exact Query.insnHits_lt_of_failsFirstAt hfails hin
  · intro displacement k hk hindex
    have hin := (hits_iff (.leas displacement) k).1 ⟨hk, hindex⟩
    rw [Query.hitsIn_leas, hstop] at hin
    exact Query.insnHits_lt_of_failsFirstAt hfails hin
  · have hpadding : (∀ k ∈ (Query.prologues .padding).hitsIn o segment.index c, k.address ≤ u) ↔
        ¬(c.FaultIsStart o u ∧ ((c.tailFrom (u + 1)).findAfterPadding? o).isSome = true) :=
      Query.padding_le_fault_iff hstop hfails
    rw [← hpadding]
    constructor
    · intro hall k hin
      rcases (hits_iff (.prologues .padding) k).2 hin with ⟨hk, hindex⟩
      exact hall k hk hindex
    · intro hall k hk hindex
      exact hall k ((hits_iff (.prologues .padding) k).1 ⟨hk, hindex⟩)

/-- One executable segment. -/
def faultImage : Image where
  base := .ofNat 0x400000
  loadBias := 0
  headers := [⟨1, 5, 0, 0, 14, 14⟩]

/-- A call, filler in front of a byte that cannot be decoded, filler in front of a push, a call. -/
def faultData : List UInt8 :=
  [0xe8, 0x00, 0x00, 0x00, 0x00, 0x90, 0x06, 0x90, 0x55, 0xe8, 0x00, 0x00, 0x00, 0x00]

def faultSegment : Segment :=
  ⟨0, ⟨.ofNat 0x400000, .ofNat 0x40000e⟩, ⟨true, false, true⟩, 0, 14⟩

def faultCode : Code :=
  ⟨.ofNat 0x400000, faultData, by decide⟩

theorem failsFirstAt_faultCode : faultCode.FailsFirstAt (.ofNat 0x400006) := by
  have hleads : faultCode.Leads (.ofNat 0x400000) (.ofNat 0x400006) :=
    .step rfl (.step rfl (.refl _))
  exact ⟨hleads, rfl, _, rfl⟩

theorem hits_of_failsFirstAt_faultCode :
    ∃ s, ofImage faultImage faultData = .ok s ∧ faultSegment ∈ faultImage.executableSegments ∧
      ∃ c, Image.segmentCode faultSegment faultData = .ok c ∧
        c.FailsFirstAt (.ofNat 0x400006) ∧
        (∀ k ∈ (s.withOptions { resync := .stop }).hits (.calls none),
          k.segment = 0 → k.address < .ofNat 0x400006) ∧
        ((∀ k ∈ (s.withOptions { resync := .stop }).hits (.prologues .padding),
            k.segment = 0 → k.address ≤ .ofNat 0x400006) ↔
          ¬(c.FaultIsStart { resync := .stop } (.ofNat 0x400006) ∧
            ((c.tailFrom (.ofNat 0x400007)).findAfterPadding? { resync := .stop }).isSome =
              true)) := by
  refine ⟨_, rfl, by decide, ?_⟩
  have hsegment : faultSegment ∈ faultImage.executableSegments := by decide
  rcases @hits_of_failsFirstAt faultImage faultData _ rfl { resync := .stop } rfl _ hsegment with
    ⟨c, hcode, hhits⟩
  have hc : c = faultCode := by
    have hsame : Image.segmentCode faultSegment faultData = .ok faultCode := rfl
    rw [hcode] at hsame
    exact Except.ok.inj hsame
  have hfails : c.FailsFirstAt (.ofNat 0x400006) := hc ▸ failsFirstAt_faultCode
  rcases hhits _ hfails with ⟨hcalls, _, hstarts⟩
  exact ⟨c, hcode, hfails, hcalls none, hstarts⟩

/-- The sweep stops at the third instruction, and the search for function starts finds a start
behind it: the next round begins one byte farther. -/
theorem exists_start_behind_fault :
    ∃ s c k, ofImage faultImage faultData = .ok s ∧
      faultSegment ∈ faultImage.executableSegments ∧
      Image.segmentCode faultSegment faultData = .ok c ∧ c.FailsFirstAt (.ofNat 0x400006) ∧
      k ∈ (s.withOptions { resync := .stop }).hits (.prologues .padding) ∧
      k.segment = faultSegment.index ∧ Address.ofNat 0x400006 < k.address := by
  have hsurvey : ofImage faultImage faultData =
      .ok ⟨defaultOptions, [(faultSegment, faultCode)]⟩ := rfl
  have hhit : Hit.ofStart 0 (.ofNat 0x400008) ∈
      (Query.prologues .padding).hitsIn { resync := .stop } 0 faultCode := by
    decide
  have hboth := (mem_hits_segment_iff hsurvey { resync := .stop } (.prologues .padding)
    List.mem_cons_self).2 hhit
  exact ⟨_, faultCode, _, hsurvey, by decide, rfl, failsFirstAt_faultCode, hboth.1, hboth.2,
    by decide⟩

end Survey

end CodeSurvey
