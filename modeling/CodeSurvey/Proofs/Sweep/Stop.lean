import CodeSurvey.Proofs.Sweep.Rounds

/-!
# Sweeps that stop

Where a sweep does not go on behind bytes that cannot be decoded, it ends at the first such address.
Searches for instructions end there too. The search for starts behind filler does so unless that
address is itself a start: then the next round begins behind it.

* `Code.Leads c a b` : decoding one instruction behind the other leads from `a` to `b`;
* `Code.FailsFirstAt c u` : from the start on, this leads to `u` and fails there;
* `Code.FailsFrom.mem_linearSweep` : what one step of such a sweep can be;
* `Query.hitsBehind_padding_of_failsFrom` : the starts up to `u`, and those found behind it.
-/

namespace CodeSurvey

namespace Code

/-! ## The first fault -/

/-- Decoding one instruction behind the other leads from an address to another. -/
inductive Leads (c : Code) : Address → Address → Prop
  | refl (a : Address) : Leads c a a
  | step {a b : Address} {i : Insn} (decode : c.decode a = .ok i) (rest : Leads c i.stop b) :
      Leads c a b

/-- Decoding leads from an address to a byte of the code where it fails. -/
structure FailsFrom (c : Code) (a u : Address) : Prop where
  leads : c.Leads a u
  inside : c.contains u = true
  fault : ∃ e, c.decode u = .error e

/-- The first address at which decoding from the start of the code on fails. -/
def FailsFirstAt (c : Code) (u : Address) : Prop :=
  c.FailsFrom c.start u

variable {c : Code} {p : Resync} {a b u : Address}

/-- A sweep meets the instructions on the way to an address and then what there is to meet. -/
theorem Leads.linearSweep_eq (h : c.Leads a b) (p : Resync) :
    ∃ insns : List Insn, c.linearSweep p a = insns.map .decoded ++ c.linearSweep p b := by
  induction h with
  | refl a => exact ⟨[], rfl⟩
  | @step a b i hdecode hrest ih =>
    rcases ih with ⟨insns, hbehind⟩
    refine ⟨i :: insns, ?_⟩
    calc
      c.linearSweep p a = .decoded i :: c.linearSweep p i.stop := linearSweep_of_ok hdecode
      _ = (i :: insns).map .decoded ++ c.linearSweep p b := by rw [hbehind]; rfl

theorem Leads.le (h : c.Leads a b) : a.toNat ≤ b.toNat := by
  induction h with
  | refl a => exact Nat.le_refl _
  | step hdecode _ ih =>
    have hstop := stop_of_decode hdecode
    omega

theorem FailsFrom.linearSweep_eq (h : c.FailsFrom a u) :
    ∃ insns : List Insn, c.linearSweep .stop a = insns.map .decoded ++ [.undecodable u] := by
  rcases h.leads.linearSweep_eq .stop with ⟨insns, hsweep⟩
  rcases h.fault with ⟨e, he⟩
  have hlast : c.linearSweep .stop u = [.undecodable u] := linearSweep_of_error h.inside he
  exact ⟨insns, by rw [hsweep, hlast]⟩

/-- A step of the sweep is the last, or an instruction from whose end on the sweep ends there. -/
theorem FailsFrom.mem_linearSweep {s : Sweep.Step} (h : c.FailsFrom a u)
    (hs : s ∈ c.linearSweep .stop a) :
    s = .undecodable u ∨ ∃ i, s = .decoded i ∧ c.FailsFrom i.stop u := by
  rcases h with ⟨hleads, hinside, hfault⟩
  induction hleads with
  | refl u =>
    rcases hfault with ⟨e, he⟩
    have hlast : c.linearSweep .stop u = [.undecodable u] := linearSweep_of_error hinside he
    rw [hlast] at hs
    exact .inl (List.mem_singleton.1 hs)
  | @step a u i hdecode hrest ih =>
    rw [linearSweep_of_ok hdecode] at hs
    rcases List.mem_cons.1 hs with rfl | hbehind
    · exact .inr ⟨i, rfl, hrest, hinside, hfault⟩
    · exact ih hbehind hinside hfault

/-- No instruction of the sweep begins at the fault or behind it. -/
theorem FailsFrom.start_lt {i : Insn} (h : c.FailsFrom a u)
    (hi : .decoded i ∈ c.linearSweep .stop a) : i.start < u := by
  rcases h.linearSweep_eq with ⟨insns, hsweep⟩
  have hordered := c.linearSweep_pairwise .stop a
  rw [hsweep] at hordered hi
  have hbefore := (List.pairwise_append.1 hordered).2.2
  rcases List.mem_append.1 hi with hfront | hlast
  · exact hbefore _ hfront _ (List.mem_singleton.2 rfl)
  · cases List.mem_singleton.1 hlast

/-- Behind an instruction a sweep goes on at its end. -/
theorem linearSweep_behind_decoded {pre post : List Sweep.Step} {i : Insn}
    (h : c.linearSweep p a = pre ++ .decoded i :: post) : post = c.linearSweep p i.stop := by
  rcases (linearSweep_behind h).2.2 with hpost | ⟨_, u, hu⟩
  · exact hpost
  · cases hu

/-- Behind a fault nothing is left of a sweep that stops. -/
theorem linearSweep_behind_undecodable {pre post : List Sweep.Step}
    (h : c.linearSweep .stop a = pre ++ .undecodable u :: post) : post = [] := by
  rcases (linearSweep_eq_cons (linearSweep_of_append h)).2.2.2 with ⟨i, hi, _⟩ | ⟨e, _, _, hgo⟩
  · cases hi
  · rcases hgo with ⟨_, hnil⟩ | ⟨hpolicy, _⟩
    · exact hnil
    · cases hpolicy

/-- Each step of a sweep that stops is led to. -/
theorem leads_of_linearSweep {pre post : List Sweep.Step} {s : Sweep.Step}
    (h : c.linearSweep .stop a = pre ++ s :: post) : c.Leads a s.address := by
  induction pre generalizing a with
  | nil =>
    rw [(linearSweep_eq_cons h).1]
    exact .refl a
  | cons t pre ih =>
    rcases linearSweep_eq_cons h with ⟨_, _, _, ⟨i, rfl, hdecode, hrest⟩ | ⟨e, rfl, _, _⟩⟩
    · exact .step hdecode (ih hrest.symm)
    · have hfirst : c.linearSweep .stop a = [] ++ .undecodable a :: (pre ++ s :: post) := h
      have hnil := linearSweep_behind_undecodable hfirst
      simp at hnil

/-- The fault is where a function may start: the address is admitted, and the instruction that ends
there is filler. -/
def FaultIsStart (c : Code) (o : ScanOptions) (u : Address) : Prop :=
  o.admits u = true ∧
    ∃ (a : Address) (i : Insn), c.Leads c.start a ∧ c.decode a = .ok i ∧ i.stop = u ∧
      i.kind.isPadding = true

theorem FailsFirstAt.mem_starts_iff {o : ScanOptions} (h : c.FailsFirstAt u) :
    u ∈ Sweep.starts o.admits false (c.linearSweep .stop c.start) ↔ c.FaultIsStart o u := by
  rw [Sweep.mem_starts_iff, FaultIsStart, and_comm]
  refine and_congr_right ?_
  intro _
  constructor
  · rintro ⟨pre, prev, cur, post, hsweep, hpad, _, rfl⟩
    cases prev with
    | undecodable b => simp at hpad
    | decoded i =>
      rcases linearSweep_eq_cons (linearSweep_of_append hsweep) with
        ⟨_, _, _, ⟨j, hj, hdecode, hrest⟩ | ⟨e, hi, _⟩⟩
      · cases hj
        -- The step behind the instruction is at its end.
        have hcur : cur.address = i.stop := (linearSweep_eq_cons hrest.symm).1
        exact ⟨i.start, i, leads_of_linearSweep hsweep, hdecode, hcur.symm, hpad⟩
      · cases hi
  · rintro ⟨a, i, hleads, hdecode, rfl, hpad⟩
    rcases hleads.linearSweep_eq .stop with ⟨insns, hsweep⟩
    rcases h.fault with ⟨e, he⟩
    have hlast : c.linearSweep .stop i.stop = [.undecodable i.stop] :=
      linearSweep_of_error h.inside he
    refine ⟨insns.map .decoded, .decoded i, .undecodable i.stop, [], ?_, hpad, rfl, rfl⟩
    rw [hsweep, linearSweep_of_ok hdecode, hlast]

end Code

namespace Query

variable {o : ScanOptions} {segment : Nat} {c : Code} {a u : Address} {h : Hit}

/-! ## Hits of a sweep that stops -/

theorem insnHits_lt_of_failsFirstAt {kind : HitKind} {wanted : Insn → Bool}
    (hfails : c.FailsFirstAt u)
    (hmem : h ∈ ((c.linearInstructions .stop).filter wanted).map (Hit.ofInsn kind segment)) :
    h.address < u := by
  rcases List.mem_map.1 hmem with ⟨i, hi, rfl⟩
  rcases List.mem_filterMap.1 (List.mem_filter.1 hi).1 with ⟨s, hs, hinsn⟩
  cases s with
  | undecodable b => simp at hinsn
  | decoded j =>
    cases hinsn
    exact hfails.start_lt hs

/-- The first start behind filler among the rounds from an address on. -/
theorem firstHit?_padding_tailFrom (o : ScanOptions) (segment : Nat) (hlo : c.base ≤ a)
    (hhi : a ≤ c.stop) :
    (prologues .padding).firstHit? o (fun _ => segment) (c.tailFrom a) =
      (Sweep.starts o.admits false (c.linearSweep o.resync a)).head?.map (Hit.ofStart segment) := by
  have hfirst : (prologues .padding).firstHit? o (fun _ => segment) (c.tailFrom a) =
      ((c.tailFrom a).findAfterPadding? o).map (Hit.ofStart segment) := rfl
  rw [hfirst, Code.findAfterPadding?_eq, (Code.isTail_tailFrom hlo hhi).sweep_eq]

/-- A round that begins in front of a start finds the first one, and the next round begins behind
that step. -/
theorem hitsBehind_padding_of_starts {s : Sweep.Step} {bs : List Address} (hlo : c.base ≤ a)
    (hhi : a ≤ c.stop) (hs : s ∈ c.linearSweep o.resync a)
    (hstarts : Sweep.starts o.admits false (c.linearSweep o.resync a) = s.address :: bs) :
    (prologues .padding).hitsBehind o segment c a =
      Hit.ofStart segment s.address :: (prologues .padding).hitsBehind o segment c s.next := by
  have hfirst := firstHit?_padding_tailFrom o segment hlo hhi
  rw [hstarts, List.head?_cons, Option.map_some] at hfirst
  have hresume : (prologues .padding).resumeAt c (Hit.ofStart segment s.address) = s.next := by
    rcases List.append_of_mem hs with ⟨pre, post, hsweep⟩
    exact resumeAtStart_eq_next hsweep
  rw [hitsBehind_of_some hlo hhi hfirst, hresume]

/-- The starts that a sweep up to the fault meets, and behind the fault, if it is one of them, those
of the rounds that begin there. -/
theorem hitsBehind_padding_of_failsFrom (hstop : o.resync = .stop) (hlo : c.base ≤ a)
    (hfails : c.FailsFrom a u) :
    (prologues .padding).hitsBehind o segment c a =
      (Sweep.starts o.admits false (c.linearSweep .stop a)).map (Hit.ofStart segment) ++
        if u ∈ Sweep.starts o.admits false (c.linearSweep .stop a) then
          (prologues .padding).hitsBehind o segment c (u + 1)
        else [] := by
  -- Every round leaves less of the code.
  induction hleft : c.stop.toNat - a.toNat using Nat.strongRecOn generalizing a with
  | _ left ih =>
    have hhi : a ≤ c.stop := by
      have hle := hfails.leads.le
      have hin := (c.contains_iff u).1 hfails.inside
      rw [Address.le_iff, c.toNat_stop]
      omega
    cases hstarts : Sweep.starts o.admits false (c.linearSweep .stop a) with
    | nil =>
      have hfirst := firstHit?_padding_tailFrom o segment hlo hhi
      rw [hstop, hstarts] at hfirst
      simpa using hitsBehind_of_none hfirst
    | cons b bs =>
      rcases Sweep.starts_eq_cons hstarts with ⟨pre, s, post, hsweep, rfl, rfl⟩
      have hs : s ∈ c.linearSweep .stop a := by
        rw [hsweep]
        exact List.mem_append_right pre List.mem_cons_self
      have hround : (prologues .padding).hitsBehind o segment c a =
          Hit.ofStart segment s.address :: (prologues .padding).hitsBehind o segment c s.next :=
        hitsBehind_padding_of_starts hlo hhi (hstop ▸ hs) (hstop ▸ hstarts)
      rcases hfails.mem_linearSweep hs with rfl | ⟨i, rfl, hrest⟩
      · -- The fault is a start: the sweep is over, the rounds are not.
        have hover : post = [] := Code.linearSweep_behind_undecodable hsweep
        subst hover
        rw [hround]
        simp [Sweep.starts, Sweep.Step.next]
      · -- The start is an instruction in front of the fault, and the sweep goes on behind it.
        have hpost : post = c.linearSweep .stop i.stop := Code.linearSweep_behind_decoded hsweep
        have hbounds : a.toNat ≤ i.start.toNat ∧ i.start.toNat < i.stop.toNat ∧
            i.stop.toNat ≤ c.stop.toNat :=
          Code.mem_linearSweep_bounds hs
        have habove : c.base ≤ i.stop := by
          rw [Address.le_iff] at hlo ⊢
          omega
        have hbehind := ih (c.stop.toNat - i.stop.toNat) (by omega) habove hrest rfl
        have hne : u ≠ i.start := by
          intro heq
          have hlt : i.start < u := hfails.start_lt hs
          rw [Address.lt_iff, heq] at hlt
          omega
        have hnext : (Sweep.Step.decoded i).next = i.stop := rfl
        rw [hround, hnext, hbehind, hpost]
        simp [hne]

end Query

end CodeSurvey
