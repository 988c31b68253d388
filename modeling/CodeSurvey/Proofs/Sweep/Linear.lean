import CodeSurvey.Proofs.Address
import CodeSurvey.Proofs.Decode.Placement
import CodeSurvey.Sweep.Basic

/-!
# Linear sweeps

A sweep of placed code, written with the decoder alone: decode, go to the end of the instruction,
and where nothing can be decoded stop or go one byte further.

* `Code.linearSweep c p a` : everything that such a sweep from `a` on meets;
* `Code.linearSweep_eq_cons` : what one step can do;
* `Code.linearSweep_of_append`, `linearSweep_behind` : behind each of its steps a sweep goes on as
  one from there;
* `Code.linearSweep_pairwise` : addresses only grow;
* `Code.steps_eq_linearSweep` : the recursion on the bytes, with its counter, is such a sweep;
* `Code.IsTail.sweep_eq` : so what is left of some code is swept as the whole is;
* `Code.sweep_eq_linearSweep` : the sweep of the whole.
-/

namespace CodeSurvey

namespace Sweep

/-! ## Steps -/

/-- Where a sweep goes on behind a step. -/
def Step.next : Step → Address
  | .decoded i => i.stop
  | .undecodable a => a + 1

/-- The counter passes over bytes and does nothing else. -/
theorem steps_skip (p : Resync) (a : Address) (skip : Nat) (bs : List UInt8) :
    steps p a skip bs = steps p (a + skip) 0 (bs.drop skip) := by
  induction skip generalizing a bs with
  | zero => rw [Address.add_zero, List.drop_zero]
  | succ n ih =>
    cases bs with
    | nil => simp [steps]
    | cons b bs =>
      calc
        steps p a (n + 1) (b :: bs) = steps p (a + 1) n bs := rfl
        _ = steps p (a + 1 + n) 0 (bs.drop n) := ih (a + 1) bs
        _ = steps p (a + (n + 1)) 0 ((b :: bs).drop (n + 1)) := by
          rw [Address.add_add, Nat.add_comm 1 n, List.drop_succ_cons]

end Sweep

namespace Code

/-! ## The sweep -/

/-- Everything that a sweep of the code from an address on meets. -/
def linearSweep (c : Code) (p : Resync) (a : Address) : List Sweep.Step :=
  if _ : c.contains a = true then
    match _ : c.decode a with
    | .ok i => .decoded i :: linearSweep c p i.stop
    | .error _ =>
      match p with
      | .stop => [.undecodable a]
      | .byteWise => .undecodable a :: linearSweep c .byteWise (a + 1)
  else []
termination_by c.stop.toNat - a.toNat
decreasing_by
  -- Every step moves up, and none beyond the end of the code.
  · have hstop := stop_of_decode ‹c.decode a = .ok i›
    omega
  · have hnext := toNat_succ_of_contains ‹c.contains a = true›
    omega

/-- The instructions that a sweep of the whole code meets. -/
def linearInstructions (c : Code) (p : Resync) : List Insn :=
  (c.linearSweep p c.start).filterMap Sweep.Step.insn?

/-! ## One step -/

theorem linearSweep_of_not_contains {c : Code} {p : Resync} {a : Address}
    (h : c.contains a = false) : c.linearSweep p a = [] := by
  rw [linearSweep.eq_def]
  simp [h]

theorem linearSweep_of_ok {c : Code} {p : Resync} {a : Address} {i : Insn}
    (h : c.decode a = .ok i) : c.linearSweep p a = .decoded i :: c.linearSweep p i.stop := by
  rw [linearSweep.eq_def, dif_pos (contains_of_decode h)]
  split
  · next j hj =>
    have hij : j = i := by simpa [h] using hj.symm
    rw [hij]
  · next e he => simp [h] at he

theorem linearSweep_of_error {c : Code} {p : Resync} {a : Address} {e : DecodeError}
    (hin : c.contains a = true) (h : c.decode a = .error e) :
    c.linearSweep p a =
      .undecodable a ::
        match p with
        | .stop => []
        | .byteWise => c.linearSweep .byteWise (a + 1) := by
  rw [linearSweep.eq_def, dif_pos hin]
  split
  · next j hj => simp [h] at hj
  · cases p with
    | stop => rfl
    | byteWise => rfl

/-- One step: it is at the address, it moves up and stays in the code, and the sweep goes on behind
it unless the policy ends it there. -/
theorem linearSweep_eq_cons {c : Code} {p : Resync} {a : Address} {s : Sweep.Step}
    {rest : List Sweep.Step} (h : c.linearSweep p a = s :: rest) :
    s.address = a ∧ a.toNat < s.next.toNat ∧ s.next.toNat ≤ c.stop.toNat ∧
      ((∃ i, s = .decoded i ∧ c.decode a = .ok i ∧ rest = c.linearSweep p s.next) ∨
        (∃ e, s = .undecodable a ∧ c.decode a = .error e ∧
          (p = .stop ∧ rest = [] ∨ p = .byteWise ∧ rest = c.linearSweep p s.next))) := by
  cases hin : c.contains a with
  | false => simp [linearSweep_of_not_contains hin] at h
  | true =>
    cases hdecode : c.decode a with
    | ok i =>
      rw [linearSweep_of_ok hdecode] at h
      cases h
      rcases stop_of_decode hdecode with ⟨hstop, hpos, hle⟩
      refine ⟨start_of_decode hdecode, ?_, hle, .inl ⟨i, rfl, rfl, rfl⟩⟩
      show a.toNat < i.stop.toNat
      omega
    | error e =>
      rw [linearSweep_of_error hin hdecode] at h
      cases h
      rcases toNat_succ_of_contains hin with ⟨hsucc, hle⟩
      refine ⟨rfl, ?_, hle, .inr ⟨e, rfl, rfl, ?_⟩⟩
      · show a.toNat < (a + 1).toNat
        omega
      · cases p with
        | stop => exact .inl ⟨rfl, rfl⟩
        | byteWise => exact .inr ⟨rfl, rfl⟩

theorem linearSweep_rest {c : Code} {p : Resync} {a : Address} {s : Sweep.Step}
    {rest : List Sweep.Step} (h : c.linearSweep p a = s :: rest) :
    rest = [] ∨ rest = c.linearSweep p s.next := by
  rcases linearSweep_eq_cons h with ⟨_, _, _, ⟨i, _, _, hrest⟩ | ⟨e, _, _, hend | hgo⟩⟩
  · exact .inr hrest
  · exact .inl hend.2
  · exact .inr hgo.2

/-! ## A whole run -/

/-- Every step of a sweep is the first of a sweep from its own address. -/
theorem linearSweep_of_append {c : Code} {p : Resync} {a : Address} {pre post : List Sweep.Step}
    {s : Sweep.Step} (h : c.linearSweep p a = pre ++ s :: post) :
    c.linearSweep p s.address = s :: post := by
  induction pre generalizing a with
  | nil => rw [(linearSweep_eq_cons h).1, h, List.nil_append]
  | cons t pre ih =>
    -- A sweep that has ended has no further steps, so this one goes on behind `t`.
    rcases linearSweep_rest h with hrest | hrest
    · simp at hrest
    · exact ih hrest.symm

/-- No step of a sweep begins in front of the end of an earlier one. -/
theorem linearSweep_ordered {c : Code} {p : Resync} {a : Address} {l : List Sweep.Step}
    (h : c.linearSweep p a = l) :
    (∀ s ∈ l, a.toNat ≤ s.address.toNat) ∧
      l.Pairwise fun s t => s.next.toNat ≤ t.address.toNat := by
  induction l generalizing a with
  | nil => exact ⟨by simp, .nil⟩
  | cons s rest ih =>
    rcases linearSweep_eq_cons h with ⟨hstart, hup, _, _⟩
    have hrest : (∀ t ∈ rest, s.next.toNat ≤ t.address.toNat) ∧
        rest.Pairwise fun s t => s.next.toNat ≤ t.address.toNat := by
      rcases linearSweep_rest h with rfl | hgo
      · exact ⟨by simp, .nil⟩
      · exact ih hgo.symm
    refine ⟨?_, List.pairwise_cons.2 hrest⟩
    intro t ht
    rcases List.mem_cons.1 ht with rfl | hmem
    · exact Nat.le_of_eq (congrArg Address.toNat hstart.symm)
    · have hle := hrest.1 t hmem
      omega

/-- Behind a step the sweep is farther up, and goes on from there unless the policy ends it. -/
theorem linearSweep_behind {c : Code} {p : Resync} {a : Address} {pre post : List Sweep.Step}
    {s : Sweep.Step} (h : c.linearSweep p a = pre ++ s :: post) :
    a.toNat < s.next.toNat ∧ s.next.toNat ≤ c.stop.toNat ∧
      (post = c.linearSweep p s.next ∨ p = .stop ∧ ∃ u, s = .undecodable u) := by
  have hle : a.toNat ≤ s.address.toNat :=
    (linearSweep_ordered h).1 s (List.mem_append_right _ List.mem_cons_self)
  rcases linearSweep_eq_cons (linearSweep_of_append h) with ⟨_, hup, hstop, hgo⟩
  refine ⟨by omega, hstop, ?_⟩
  rcases hgo with ⟨i, _, _, hpost⟩ | ⟨e, hs, _, hend | hpost⟩
  · exact .inl hpost
  · exact .inr ⟨hend.1, s.address, hs⟩
  · exact .inl hpost.2

theorem linearSweep_pairwise (c : Code) (p : Resync) (a : Address) :
    (c.linearSweep p a).Pairwise fun s t => s.address < t.address := by
  have hordered := (linearSweep_ordered (c := c) (p := p) (a := a) rfl).2
  refine hordered.imp_of_mem ?_
  intro s t hs _ hle
  rcases List.append_of_mem hs with ⟨pre, post, hsplit⟩
  have hup := (linearSweep_eq_cons (linearSweep_of_append hsplit)).2.1
  rw [Address.lt_iff]
  omega

/-! ## The recursion on the bytes -/

/-- The bytes from an address on, none from the end on. -/
def bytesBehind (c : Code) (a : Address) : List UInt8 :=
  c.bytes.drop (a.toNat - c.base.toNat)

theorem bytesBehind_drop {c : Code} {a b : Address} {n : Nat} (hlo : c.base ≤ a)
    (hb : b.toNat = a.toNat + n) : (c.bytesBehind a).drop n = c.bytesBehind b := by
  rw [Address.le_iff] at hlo
  rw [bytesBehind, bytesBehind, List.drop_drop, hb]
  congr 1
  omega

theorem bytesBehind_of_contains {c : Code} {a : Address} (h : c.contains a = true) :
    ∃ b bs, c.bytesBehind a = b :: bs ∧ c.decode a = Insn.decodeBytes a (b :: bs) := by
  rcases (c.contains_iff a).1 h with ⟨hle, hlt⟩
  have hdecode : c.decode a = Insn.decodeBytes a (c.bytesBehind a) := decode_of_contains h
  cases hbytes : c.bytesBehind a with
  | nil =>
    have hlen := congrArg List.length hbytes
    rw [bytesBehind, List.length_drop, List.length_nil] at hlen
    omega
  | cons b bs =>
    rw [hbytes] at hdecode
    exact ⟨b, bs, rfl, hdecode⟩

theorem bytesBehind_of_stop {c : Code} {a : Address} (h : c.stop ≤ a) : c.bytesBehind a = [] := by
  rw [Address.le_iff, toNat_stop] at h
  exact List.drop_eq_nil_of_le (by omega)

/-- The recursion on the bytes behind an address is the sweep from there. -/
theorem steps_eq_linearSweep {c : Code} {a : Address} (p : Resync) (hlo : c.base ≤ a) :
    Sweep.steps p a 0 (c.bytesBehind a) = c.linearSweep p a := by
  fun_induction linearSweep c p a with
  | case1 p a hin i hdecode ih =>
    rcases bytesBehind_of_contains hin with ⟨b, bs, hbytes, hfirst⟩
    rcases stop_of_decode hdecode with ⟨hstop, hpos, _⟩
    have hfound : Insn.decodeBytes a (b :: bs) = .ok i := by rw [← hfirst, hdecode]
    have hup : c.base ≤ i.stop := by
      rw [Address.le_iff] at hlo ⊢
      omega
    -- The counter takes the recursion from the second byte to the end of the instruction.
    have hnext : a + 1 + (i.length - 1) = i.stop := by
      rw [Address.add_add, Insn.stop, start_of_decode hdecode]
      congr 1
      omega
    have hrest : bs.drop (i.length - 1) = c.bytesBehind i.stop := by
      rw [← bytesBehind_drop hlo hstop, hbytes, List.drop_cons hpos]
    calc
      Sweep.steps p a 0 (c.bytesBehind a) =
          .decoded i :: Sweep.steps p (a + 1) (i.length - 1) bs := by
        simp only [hbytes, Sweep.steps, hfound]
      _ = .decoded i :: Sweep.steps p i.stop 0 (c.bytesBehind i.stop) := by
        rw [Sweep.steps_skip, hnext, hrest]
      _ = .decoded i :: c.linearSweep p i.stop := by rw [ih hup]
  | case2 a hin e hdecode =>
    rcases bytesBehind_of_contains hin with ⟨b, bs, hbytes, hfirst⟩
    have hfault : Insn.decodeBytes a (b :: bs) = .error e := by rw [← hfirst, hdecode]
    simp only [hbytes, Sweep.steps, hfault]
  | case3 a hin e hdecode ih =>
    rcases bytesBehind_of_contains hin with ⟨b, bs, hbytes, hfirst⟩
    have hfault : Insn.decodeBytes a (b :: bs) = .error e := by rw [← hfirst, hdecode]
    have hsucc := (toNat_succ_of_contains hin).1
    have hup : c.base ≤ a + 1 := by
      rw [Address.le_iff] at hlo ⊢
      omega
    have hrest : bs = c.bytesBehind (a + 1) := by
      rw [← bytesBehind_drop hlo hsucc, hbytes, List.drop_succ_cons, List.drop_zero]
    calc
      Sweep.steps .byteWise a 0 (c.bytesBehind a) =
          .undecodable a :: Sweep.steps .byteWise (a + 1) 0 bs := by
        simp only [hbytes, Sweep.steps, hfault]
      _ = .undecodable a :: c.linearSweep .byteWise (a + 1) := by rw [hrest, ih hup]
  | case4 p a hin =>
    have hstop : c.stop ≤ a := le_of_not_contains hlo (Bool.eq_false_iff.2 hin)
    rw [bytesBehind_of_stop hstop, Sweep.steps]

/-! ## Tails -/

/-- The rest holds what the code has from an address on. -/
structure IsTail (c rest : Code) (a : Address) : Prop where
  above : c.base ≤ a
  start : rest.start = a
  bytes : rest.bytes = c.bytesBehind a

theorem isTail_self (c : Code) : c.IsTail c c.start := by
  refine ⟨Nat.le_refl _, rfl, ?_⟩
  rw [bytesBehind, start, Nat.sub_self, List.drop_zero]

theorem isTail_tailFrom {c : Code} {a : Address} (hlo : c.base ≤ a) (hhi : a ≤ c.stop) :
    c.IsTail (c.tailFrom a) a := by
  cases hin : c.contains a with
  | true =>
    rw [tailFrom, dif_pos hin]
    exact ⟨hlo, rfl, rfl⟩
  | false =>
    have hstop : c.stop ≤ a := le_of_not_contains hlo hin
    have ha : c.stop = a := Address.toNat_inj (Nat.le_antisymm hstop hhi)
    rw [tailFrom, dif_neg (by simp [hin])]
    exact ⟨hlo, ha, (bytesBehind_of_stop hstop).symm⟩

/-- A sweep of what is left goes on as a sweep of the whole does. -/
theorem IsTail.sweep_eq {c rest : Code} {a : Address} (h : c.IsTail rest a) (p : Resync) :
    rest.sweep p = c.linearSweep p a := by
  rw [Code.sweep, h.start, h.bytes, steps_eq_linearSweep p h.above]

theorem sweep_eq_linearSweep (c : Code) (p : Resync) : c.sweep p = c.linearSweep p c.start :=
  c.isTail_self.sweep_eq p

theorem instructions_eq_linearInstructions (c : Code) (p : Resync) :
    c.instructions p = c.linearInstructions p := by
  rw [instructions, sweep_eq_linearSweep, linearInstructions]

end Code

end CodeSurvey
