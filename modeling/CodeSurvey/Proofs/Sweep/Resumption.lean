import CodeSurvey.Image.Query
import CodeSurvey.Proofs.Sweep.FirstMatch
import CodeSurvey.Proofs.Sweep.Linear

/-!
# Resumed searches

All hits in a piece of code are found by looking for the first one again and again, each time in the
code behind the last. Where a first hit and what lies behind it are those of one sweep, so are all
hits.

* `Query.Resumes q o segment c hits` : what has to be known of one round;
* `Query.Resumes.hitsIn_eq` : what follows for all rounds;
* `Query.Seeks q kind wanted` : the query is about instructions with a property;
* `Query.hitsIn_calls`, `hitsIn_leas` : under both policies these are the hits of one sweep;
* `Query.hitsIn_padding` : starts behind filler are those of one sweep that does not stop.
-/

namespace CodeSurvey

namespace Query

variable {q : Query} {o : ScanOptions} {segment : Nat} {c : Code}

/-! ## One round and all rounds -/

/-- The list of an address begins with the first hit from there on, and goes on as the list of the
address at which the search is resumed. That one lies farther up. -/
structure Resumes (q : Query) (o : ScanOptions) (segment : Nat) (c : Code)
    (hits : Address → List Hit) : Prop where
  first : ∀ a rest, c.IsTail rest a → q.firstHit? o (fun _ => segment) rest = (hits a).head?
  behind : ∀ a h hs, c.base ≤ a → hits a = h :: hs →
    a.toNat < (q.resumeAt c h).toNat ∧ (q.resumeAt c h).toNat ≤ c.stop.toNat ∧
      hits (q.resumeAt c h) = hs

/-- The rounds go through the list. Each is farther up than the last, so the addresses that are
left bound their number. -/
theorem Resumes.hitsFrom_eq {hits : Address → List Hit} (hr : Resumes q o segment c hits)
    {a : Address} {rest : Code} (htail : c.IsTail rest a) {rounds : Nat}
    (henough : c.stop.toNat - a.toNat < rounds) :
    q.hitsFrom o segment c rounds rest = hits a := by
  induction rounds generalizing a rest with
  | zero => omega
  | succ n ih =>
    have hfirst := hr.first a rest htail
    cases hhits : hits a with
    | nil =>
      rw [hhits, List.head?_nil] at hfirst
      simp [hitsFrom, hfirst]
    | cons h hs =>
      rw [hhits, List.head?_cons] at hfirst
      rcases hr.behind a h hs htail.above hhits with ⟨hup, hstop, hrest⟩
      have habove : c.base ≤ q.resumeAt c h :=
        Nat.le_trans htail.above (Nat.le_of_lt hup)
      -- The next round is about the tail from the address where the search is resumed.
      have hnext : c.IsTail (c.tailFrom (q.resumeAt c h)) (q.resumeAt c h) :=
        Code.isTail_tailFrom habove hstop
      calc
        q.hitsFrom o segment c (n + 1) rest =
            h :: q.hitsFrom o segment c n (c.tailFrom (q.resumeAt c h)) := by
          simp [hitsFrom, hfirst]
        _ = h :: hits (q.resumeAt c h) := by rw [ih hnext (by omega)]
        _ = h :: hs := by rw [hrest]

theorem Resumes.hitsIn_eq {hits : Address → List Hit} (hr : Resumes q o segment c hits) :
    q.hitsIn o segment c = hits c.start := by
  refine hr.hitsFrom_eq c.isTail_self ?_
  exact Nat.lt_succ_of_le (Code.toNat_stop_sub_le (Nat.le_refl _))

/-! ## Searches for instructions -/

/-- The query is about the instructions with a property: a hit is one, and the search goes on behind
it. -/
structure Seeks (q : Query) (kind : HitKind) (wanted : Insn → Bool) : Prop where
  first : ∀ (o : ScanOptions) (segmentAt : Address → Nat) (rest : Code),
    q.firstHit? o segmentAt rest =
      (rest.findFirst? o.resync wanted).map fun i => .ofInsn kind (segmentAt i.start) i
  resume : ∀ (c : Code) (h : Hit), q.resumeAt c h = h.stop

theorem seeks_calls (target : Option Address) : (calls target).Seeks .call (Insn.isCallTo target) :=
  ⟨fun _ _ _ => rfl, fun _ _ => rfl⟩

theorem seeks_leas (displacement : Int) :
    (leas displacement).Seeks .lea (Insn.isLeaWith displacement) :=
  ⟨fun _ _ _ => rfl, fun _ _ => rfl⟩

/-- The hits of the wanted instructions that a sweep from an address on meets. -/
def insnHits (kind : HitKind) (wanted : Insn → Bool) (o : ScanOptions) (segment : Nat) (c : Code)
    (a : Address) : List Hit :=
  (((c.linearSweep o.resync a).filterMap Sweep.Step.insn?).filter wanted).map
    (Hit.ofInsn kind segment)

/-- Behind a wanted instruction the sweep meets the rest of the wanted ones. -/
theorem insnHits_behind {kind : HitKind} {wanted : Insn → Bool} {a : Address} {h : Hit}
    {hs : List Hit} (hhits : insnHits kind wanted o segment c a = h :: hs) :
    a.toNat < h.stop.toNat ∧ h.stop.toNat ≤ c.stop.toNat ∧
      insnHits kind wanted o segment c h.stop = hs := by
  -- The hit is some step of the sweep, and the other hits are among the steps behind it.
  rcases List.map_eq_cons_iff.1 hhits with ⟨i, is, hwanted, rfl, rfl⟩
  rcases List.filter_eq_cons_iff.1 hwanted with ⟨front, back, hinsns, _, _, hback⟩
  rcases List.filterMap_eq_append_iff.1 hinsns with ⟨pre, tail, hsplit, _, htail⟩
  rcases List.filterMap_eq_cons_iff.1 htail with ⟨gap, s, post, rfl, _, hs, hpost⟩
  cases s with
  | undecodable u => simp at hs
  | decoded j =>
    have hji : j = i := Option.some.inj hs
    subst hji
    have hsweep : c.linearSweep o.resync a = (pre ++ gap) ++ .decoded j :: post := by
      rw [hsplit, List.append_assoc]
    rcases Code.linearSweep_behind hsweep with ⟨hup, hstop, hgo | ⟨_, u, hu⟩⟩
    · refine ⟨hup, hstop, ?_⟩
      have hnext : (Hit.ofInsn kind segment j).stop = (Sweep.Step.decoded j).next := rfl
      rw [insnHits, hnext, ← hgo, hpost, hback]
    · cases hu

theorem Seeks.resumes {kind : HitKind} {wanted : Insn → Bool} (hq : q.Seeks kind wanted) :
    Resumes q o segment c (insnHits kind wanted o segment c) := by
  refine ⟨?_, ?_⟩
  · intro a rest htail
    rw [hq.first, Code.findFirst?_eq, Code.instructions, htail.sweep_eq, insnHits,
      ← List.head?_filter, ← List.head?_map]
  · intro a h hs _ hhits
    rw [hq.resume]
    exact insnHits_behind hhits

theorem Seeks.hitsIn_eq {kind : HitKind} {wanted : Insn → Bool} (hq : q.Seeks kind wanted)
    (o : ScanOptions) (segment : Nat) (c : Code) :
    q.hitsIn o segment c =
      ((c.linearInstructions o.resync).filter wanted).map (Hit.ofInsn kind segment) :=
  hq.resumes.hitsIn_eq

theorem hitsIn_calls (o : ScanOptions) (target : Option Address) (segment : Nat) (c : Code) :
    (calls target).hitsIn o segment c =
      ((c.linearInstructions o.resync).filter (Insn.isCallTo target)).map
        (Hit.ofInsn .call segment) :=
  (seeks_calls target).hitsIn_eq o segment c

theorem hitsIn_leas (o : ScanOptions) (displacement : Int) (segment : Nat) (c : Code) :
    (leas displacement).hitsIn o segment c =
      ((c.linearInstructions o.resync).filter (Insn.isLeaWith displacement)).map
        (Hit.ofInsn .lea segment) :=
  (seeks_leas displacement).hitsIn_eq o segment c

/-! ## Searches for starts behind filler -/

/-- The starts behind filler in a sweep from an address on. -/
def paddingHits (o : ScanOptions) (segment : Nat) (c : Code) (a : Address) : List Hit :=
  (Sweep.starts o.admits false (c.linearSweep o.resync a)).map (Hit.ofStart segment)

/-- The search goes on where the sweep does, behind the instruction at the start or behind its
first byte. -/
theorem resumeAtStart_eq_next {p : Resync} {a : Address} {pre post : List Sweep.Step}
    {s : Sweep.Step} (h : c.linearSweep p a = pre ++ s :: post) :
    resumeAtStart c .padding s.address = s.next := by
  have hstep := (Code.linearSweep_eq_cons (Code.linearSweep_of_append h)).2.2.2
  rcases hstep with ⟨i, hs, hdecode, _⟩ | ⟨e, hs, hdecode, _⟩
  · simp only [resumeAtStart, hdecode]
    rw [hs]
    rfl
  · simp only [resumeAtStart, hdecode]
    rw [hs]
    rfl

/-- A round that starts behind a hit has met no filler yet. Nor has the whole sweep, since the hit
itself was none: that the round forgets what came before makes no difference. -/
theorem resumes_paddingHits (hgo : o.resync = .byteWise) :
    Resumes (.prologues .padding) o segment c (paddingHits o segment c) := by
  refine ⟨?_, ?_⟩
  · intro a rest htail
    have hfirst : (prologues .padding).firstHit? o (fun _ => segment) rest =
        (rest.findAfterPadding? o).map (Hit.ofStart segment) := rfl
    rw [hfirst, Code.findAfterPadding?_eq, htail.sweep_eq, paddingHits, List.head?_map]
  · intro a h hs _ hhits
    rcases List.map_eq_cons_iff.1 hhits with ⟨b, bs, hstarts, rfl, rfl⟩
    rcases Sweep.starts_eq_cons hstarts with ⟨pre, s, post, hsweep, rfl, rfl⟩
    have hresume : (prologues .padding).resumeAt c (Hit.ofStart segment s.address) = s.next :=
      resumeAtStart_eq_next hsweep
    rcases Code.linearSweep_behind hsweep with ⟨hup, hstop, hpost | ⟨hends, _⟩⟩
    · rw [hresume]
      refine ⟨hup, hstop, ?_⟩
      rw [paddingHits, hpost]
    · simp [hgo] at hends

theorem hitsIn_padding {o : ScanOptions} (hgo : o.resync = .byteWise) (segment : Nat) (c : Code) :
    (prologues .padding).hitsIn o segment c =
      (Sweep.starts o.admits false (c.linearSweep .byteWise c.start)).map
        (Hit.ofStart segment) := by
  rw [(resumes_paddingHits hgo).hitsIn_eq, paddingHits, hgo]

end Query

end CodeSurvey
