import CodeSurvey.Proofs.Sweep.Resumption

/-!
# Rounds of a search

What every round of a search does, whatever is searched for and under either policy. A round looks
for the first hit in what is left of some code, and the next one is about what lies behind it.

* `Query.firstHit?_bounds` : a hit lies in what is left, and the search goes on behind it;
* `Query.hitsBehind q o segment c a` : the hits of the rounds from an address on;
* `Query.hitsBehind_of_none`, `hitsBehind_of_some` : these rounds, one at a time;
* `Query.mem_hitsFrom_bounds` : all hits lie in the code.
-/

namespace CodeSurvey

namespace Code

theorem mem_linearSweep_bounds {c : Code} {p : Resync} {a : Address} {s : Sweep.Step}
    (h : s ∈ c.linearSweep p a) :
    a.toNat ≤ s.address.toNat ∧ s.address.toNat < s.next.toNat ∧ s.next.toNat ≤ c.stop.toNat := by
  have hle : a.toNat ≤ s.address.toNat := (linearSweep_ordered rfl).1 s h
  rcases List.append_of_mem h with ⟨pre, post, hsplit⟩
  rcases linearSweep_eq_cons (linearSweep_of_append hsplit) with ⟨_, hup, hstop, _⟩
  exact ⟨hle, hup, hstop⟩

/-- What is left of some code from an address on is one piece of code only. -/
theorem IsTail.unique {c r s : Code} {a : Address} (hr : c.IsTail r a) (hs : c.IsTail s a) :
    r = s :=
  eq_of_bytes (hr.start.trans hs.start.symm) (hr.bytes.trans hs.bytes.symm)

theorem IsTail.toNat_stop_sub {c rest : Code} {a : Address} (h : c.IsTail rest a) :
    rest.bytes.length = c.stop.toNat - a.toNat := by
  have habove : c.base.toNat ≤ a.toNat := h.above
  rw [h.bytes, bytesBehind, List.length_drop, toNat_stop]
  omega

end Code

/-- A marker that is found lies among the bytes, at an admitted address. -/
theorem Sweep.exists_append_of_findMarker? {admits : Address → Bool} {a b : Address}
    {bs : List UInt8} (h : findMarker? admits a bs = some b) :
    ∃ front back, bs = front ++ (landingPadBytes ++ back) ∧ b = a + front.length ∧
      admits b = true := by
  induction bs generalizing a with
  | nil => simp [findMarker?] at h
  | cons c bs ih =>
    rw [findMarker?] at h
    split at h
    · next hhere =>
      rcases Bool.and_eq_true_iff.1 hhere with ⟨hmarker, hadmits⟩
      rcases List.isPrefixOf_iff_prefix.1 hmarker with ⟨back, hback⟩
      cases h
      exact ⟨[], back, hback.symm, (Address.add_zero b).symm, hadmits⟩
    · rcases ih h with ⟨front, back, rfl, rfl, hadmits⟩
      refine ⟨c :: front, back, rfl, ?_, hadmits⟩
      rw [Address.add_add, List.length_cons, Nat.add_comm]

namespace Query

variable {q : Query} {o : ScanOptions} {segment : Nat} {c rest : Code} {a : Address} {h : Hit}

/-! ## One round -/

theorem insn_mem_of_findFirst? {p : Resync} {wanted : Insn → Bool} {i : Insn}
    (htail : c.IsTail rest a) (hfirst : rest.findFirst? p wanted = some i) :
    Sweep.Step.decoded i ∈ c.linearSweep p a := by
  rw [Code.findFirst?_eq, Code.instructions, htail.sweep_eq] at hfirst
  rcases List.mem_filterMap.1 (List.mem_of_find?_eq_some hfirst) with ⟨s, hs, hi⟩
  cases s with
  | undecodable u => simp at hi
  | decoded j =>
    rw [← Option.some.inj hi]
    exact hs

/-- The first hit in what is left of some code lies in it, and the search is resumed behind it and
not beyond the end. -/
theorem firstHit?_bounds {segmentAt : Address → Nat} (htail : c.IsTail rest a)
    (hfirst : q.firstHit? o segmentAt rest = some h) :
    a.toNat ≤ h.address.toNat ∧ h.address.toNat < (q.resumeAt c h).toNat ∧
      (q.resumeAt c h).toNat ≤ c.stop.toNat := by
  cases q with
  | calls target =>
    rcases Option.map_eq_some_iff.1 hfirst with ⟨i, hi, rfl⟩
    exact Code.mem_linearSweep_bounds (insn_mem_of_findFirst? htail hi)
  | leas displacement =>
    rcases Option.map_eq_some_iff.1 hfirst with ⟨i, hi, rfl⟩
    exact Code.mem_linearSweep_bounds (insn_mem_of_findFirst? htail hi)
  | prologues mode =>
    rcases Option.map_eq_some_iff.1 hfirst with ⟨b, hb, rfl⟩
    cases mode with
    | landingPad =>
      rcases Sweep.exists_append_of_findMarker? hb with ⟨front, back, hbytes, hplace, _⟩
      have hlength := congrArg List.length hbytes
      have hleft := htail.toNat_stop_sub
      have hmarker : landingPadBytes.length = 4 := rfl
      simp only [List.length_append, hmarker] at hlength
      have hstop := c.stop.toNat_lt
      -- The whole marker is there, so neither its start nor its end wraps.
      have hstart : b.toNat = a.toNat + front.length := by
        rw [hplace, htail.start]
        exact Address.toNat_add_of_lt (by omega)
      have hend : (b + landingPadBytes.length).toNat = b.toNat + 4 :=
        Address.toNat_add_of_lt (by omega)
      show a.toNat ≤ b.toNat ∧ b.toNat < (b + landingPadBytes.length).toNat ∧
        (b + landingPadBytes.length).toNat ≤ c.stop.toNat
      omega
    | padding =>
      have hhead : (Sweep.starts o.admits false (c.linearSweep o.resync a)).head? = some b := by
        rw [← htail.sweep_eq, ← Code.findAfterPadding?_eq]
        exact hb
      rcases List.head?_eq_some_iff.1 hhead with ⟨bs, hstarts⟩
      rcases Sweep.starts_eq_cons hstarts with ⟨pre, s, post, hsweep, rfl, _⟩
      have hresume : resumeAtStart c .padding s.address = s.next := resumeAtStart_eq_next hsweep
      have hbounds : a.toNat ≤ s.address.toNat ∧ s.address.toNat < s.next.toNat ∧
          s.next.toNat ≤ c.stop.toNat := by
        apply Code.mem_linearSweep_bounds
        rw [hsweep]
        exact List.mem_append_right pre List.mem_cons_self
      rw [← hresume] at hbounds
      exact hbounds

/-- The next round is about what is left behind the hit. -/
theorem isTail_resumeAt {segmentAt : Address → Nat} (htail : c.IsTail rest a)
    (hfirst : q.firstHit? o segmentAt rest = some h) :
    c.IsTail (c.tailFrom (q.resumeAt c h)) (q.resumeAt c h) := by
  rcases firstHit?_bounds htail hfirst with ⟨hle, hup, hstop⟩
  have habove : c.base.toNat ≤ a.toNat := htail.above
  have hresume : c.base ≤ q.resumeAt c h := by
    rw [Address.le_iff]
    omega
  exact Code.isTail_tailFrom hresume hstop

/-! ## All rounds -/

theorem hitsFrom_of_none (hfirst : q.firstHit? o (fun _ => segment) rest = none) (rounds : Nat) :
    q.hitsFrom o segment c rounds rest = [] := by
  cases rounds with
  | zero => rfl
  | succ n => simp [hitsFrom, hfirst]

theorem hitsFrom_of_some (hfirst : q.firstHit? o (fun _ => segment) rest = some h) (rounds : Nat) :
    q.hitsFrom o segment c (rounds + 1) rest =
      h :: q.hitsFrom o segment c rounds (c.tailFrom (q.resumeAt c h)) := by
  simp [hitsFrom, hfirst]

/-- All hits of all rounds lie in what was left at first. -/
theorem mem_hitsFrom_bounds {rounds : Nat} (htail : c.IsTail rest a)
    (hmem : h ∈ q.hitsFrom o segment c rounds rest) :
    a.toNat ≤ h.address.toNat ∧ h.address.toNat < c.stop.toNat := by
  induction rounds generalizing a rest with
  | zero => simp [hitsFrom] at hmem
  | succ n ih =>
    cases hfirst : q.firstHit? o (fun _ => segment) rest with
    | none => simp [hitsFrom_of_none hfirst] at hmem
    | some k =>
      rcases firstHit?_bounds htail hfirst with ⟨hle, hup, hstop⟩
      rw [hitsFrom_of_some hfirst] at hmem
      rcases List.mem_cons.1 hmem with rfl | hbehind
      · omega
      · have hnext := ih (isTail_resumeAt htail hfirst) hbehind
        omega

theorem mem_hitsIn_bounds (hmem : h ∈ q.hitsIn o segment c) :
    c.base.toNat ≤ h.address.toNat ∧ h.address.toNat < c.stop.toNat :=
  mem_hitsFrom_bounds c.isTail_self hmem

/-- Rounds that are not needed do nothing. -/
theorem hitsFrom_congr {m n : Nat} (htail : c.IsTail rest a) (hm : c.stop.toNat - a.toNat < m)
    (hn : c.stop.toNat - a.toNat < n) :
    q.hitsFrom o segment c m rest = q.hitsFrom o segment c n rest := by
  induction m generalizing n a rest with
  | zero => omega
  | succ m ih =>
    cases n with
    | zero => omega
    | succ n =>
      cases hfirst : q.firstHit? o (fun _ => segment) rest with
      | none => rw [hitsFrom_of_none hfirst, hitsFrom_of_none hfirst]
      | some k =>
        rcases firstHit?_bounds htail hfirst with ⟨hle, hup, hstop⟩
        have hrest := ih (isTail_resumeAt htail hfirst) (n := n) (by omega) (by omega)
        rw [hitsFrom_of_some hfirst, hitsFrom_of_some hfirst, hrest]

/-- The hits of the rounds that begin with what is left from an address on. -/
def hitsBehind (q : Query) (o : ScanOptions) (segment : Nat) (c : Code) (a : Address) : List Hit :=
  q.hitsFrom o segment c (c.length + 1) (c.tailFrom a)

theorem hitsFrom_eq_hitsBehind {rounds : Nat} (htail : c.IsTail rest a) (hhi : a ≤ c.stop)
    (henough : c.stop.toNat - a.toNat < rounds) :
    q.hitsFrom o segment c rounds rest = q.hitsBehind o segment c a := by
  have hbytes : c.stop.toNat - a.toNat < c.length + 1 :=
    Nat.lt_succ_of_le (Code.toNat_stop_sub_le htail.above)
  rw [htail.unique (Code.isTail_tailFrom htail.above hhi), hitsBehind]
  exact hitsFrom_congr (Code.isTail_tailFrom htail.above hhi) henough hbytes

theorem hitsIn_eq_hitsBehind : q.hitsIn o segment c = q.hitsBehind o segment c c.start := by
  have hwhole : c.tailFrom c.start = c :=
    (Code.isTail_tailFrom (Nat.le_refl _) c.base_le_stop).unique c.isTail_self
  rw [hitsIn, hitsBehind, hwhole]

theorem hitsBehind_of_none (hfirst : q.firstHit? o (fun _ => segment) (c.tailFrom a) = none) :
    q.hitsBehind o segment c a = [] :=
  hitsFrom_of_none hfirst _

theorem hitsBehind_of_some (hlo : c.base ≤ a) (hhi : a ≤ c.stop)
    (hfirst : q.firstHit? o (fun _ => segment) (c.tailFrom a) = some h) :
    q.hitsBehind o segment c a = h :: q.hitsBehind o segment c (q.resumeAt c h) := by
  have htail := Code.isTail_tailFrom hlo hhi
  rcases firstHit?_bounds htail hfirst with ⟨hle, hup, hstop⟩
  have habove : c.base.toNat ≤ a.toNat := hlo
  have hend := c.toNat_stop
  have henough : c.stop.toNat - (q.resumeAt c h).toNat < c.length := by
    show c.stop.toNat - (q.resumeAt c h).toNat < c.bytes.length
    omega
  rw [hitsBehind, hitsFrom_of_some hfirst,
    hitsFrom_eq_hitsBehind (isTail_resumeAt htail hfirst) hstop henough]

end Query

end CodeSurvey
