import CodeSurvey.Proofs.Decode.Bounds
import CodeSurvey.Proofs.Sweep.Stream

/-!
# What a visitor is shown

The instructions that a sweep shows to its visitor lie one behind the other. Between them are only
bytes at which nothing can be decoded, and the sweep passes these one at a time.

* `Code.Tiles c p a is u` : the instructions and the skipped bytes fill the addresses from `a` to
  `u`;
* `Code.Tiles.pairwise`, `Code.Tiles.covers_or_fails` : what that says about spans and addresses;
* `Code.exists_tiles` : a sweep fills all that it passes;
* `Code.presented c p visitor s` : what the visitor is shown;
* `Code.scanInto` : the sweep with one record, into which each instruction is decoded;
* `Code.scan_tiles` : the instructions shown fill the addresses up to where the sweep ends, it finds
  what the visitor accepts, and the record is that instruction or blank.
-/

namespace CodeSurvey

/-- The address is one of those that the instruction occupies. -/
def Insn.Covers (i : Insn) (a : Address) : Prop :=
  i.start.toNat ≤ a.toNat ∧ a.toNat < i.start.toNat + i.length

namespace Code

/-! ## Tilings -/

/-- From one address to another there is nothing but the instructions, in order, and single bytes
that are skipped because nothing can be decoded there and the policy goes on. -/
inductive Tiles (c : Code) (p : Resync) : Address → List Insn → Address → Prop where
  | done (a : Address) : Tiles c p a [] a
  | insn {a u : Address} {i : Insn} {is : List Insn} (decode : c.decode a = .ok i)
      (rest : Tiles c p i.stop is u) : Tiles c p a (i :: is) u
  | skip {a u : Address} {e : DecodeError} {is : List Insn} (goesOn : p = .byteWise)
      (inside : c.contains a = true) (fault : c.decode a = .error e)
      (rest : Tiles c p (a + 1) is u) : Tiles c p a is u

namespace Tiles

variable {c : Code} {p : Resync} {a u : Address} {is : List Insn}

theorem le (h : c.Tiles p a is u) : a.toNat ≤ u.toNat := by
  induction h with
  | done a => exact Nat.le_refl _
  | insn decode _ ih =>
    have hstop := (stop_of_decode decode).1
    omega
  | skip _ inside _ _ ih =>
    have hsucc := (toNat_succ_of_contains inside).1
    omega

/-- Each instruction is what decoding at its start gives, and lies between the two ends. -/
theorem of_mem (h : c.Tiles p a is u) :
    ∀ i ∈ is, c.decode i.start = .ok i ∧ a.toNat ≤ i.start.toNat ∧
      i.start.toNat + i.length ≤ u.toNat := by
  induction h with
  | done a => simp
  | @insn a u j is decode rest ih =>
    intro i hi
    have hstart := start_of_decode decode
    have hstop := (stop_of_decode decode).1
    -- Behind the first instruction the tiling begins where that one ends.
    rcases List.mem_cons.1 hi with rfl | hmem
    · have hle := rest.le
      rw [hstart]
      exact ⟨decode, Nat.le_refl _, by omega⟩
    · rcases ih i hmem with ⟨hdecode, hlow, hhigh⟩
      exact ⟨hdecode, by omega, hhigh⟩
  | skip _ inside _ _ ih =>
    intro i hi
    have hsucc := (toNat_succ_of_contains inside).1
    rcases ih i hi with ⟨hdecode, hlow, hhigh⟩
    exact ⟨hdecode, by omega, hhigh⟩

/-- No instruction begins in front of the end of an earlier one. -/
theorem pairwise (h : c.Tiles p a is u) :
    is.Pairwise fun i j => i.start.toNat + i.length ≤ j.start.toNat := by
  induction h with
  | done a => exact .nil
  | @insn a u i is decode rest ih =>
    refine List.pairwise_cons.2 ⟨?_, ih⟩
    intro j hj
    have hstart := start_of_decode decode
    have hstop := (stop_of_decode decode).1
    have hbehind := (rest.of_mem j hj).2.1
    rw [hstart]
    omega
  | skip _ _ _ _ ih => exact ih

/-- An address between the two ends belongs to one of the instructions, or nothing can be decoded
there. -/
theorem covers_or_fails (h : c.Tiles p a is u) {b : Address} (hlow : a.toNat ≤ b.toNat)
    (hhigh : b.toNat < u.toNat) :
    (∃ i ∈ is, i.Covers b) ∨
      (p = .byteWise ∧ (∃ e, c.decode b = .error e) ∧ ∀ i ∈ is, ¬i.Covers b) := by
  induction h with
  | done a => omega
  | @insn a u i is decode rest ih =>
    have hstart := start_of_decode decode
    have hstop := (stop_of_decode decode).1
    -- The address lies in front of the end of the first instruction or behind it.
    by_cases hfirst : b.toNat < i.stop.toNat
    · refine .inl ⟨i, List.mem_cons_self, ?_, ?_⟩
      · rwa [hstart]
      · rwa [hstart, ← hstop]
    · rcases ih (Nat.le_of_not_lt hfirst) hhigh with ⟨j, hj, hcovers⟩ | ⟨hp, hfails, hnone⟩
      · exact .inl ⟨j, List.mem_cons_of_mem i hj, hcovers⟩
      · refine .inr ⟨hp, hfails, ?_⟩
        intro j hj hcovers
        rcases List.mem_cons.1 hj with rfl | hmem
        · have hbelow := hcovers.2
          rw [hstart] at hbelow
          omega
        · exact hnone j hmem hcovers
  | @skip a u e is goesOn inside fault rest ih =>
    have hsucc := (toNat_succ_of_contains inside).1
    -- The skipped byte is in front of everything else, so no instruction has it.
    by_cases hhere : b.toNat = a.toNat
    · have hba : b = a := Address.toNat_inj hhere
      refine .inr ⟨goesOn, ⟨e, hba ▸ fault⟩, ?_⟩
      intro i hi hcovers
      have habove := (rest.of_mem i hi).2.1
      have hbelow := hcovers.1
      omega
    · exact ih (by omega) hhigh

/-- What is in front of the end of an instruction is a tiling up to there. -/
theorem upTo {front back : List Insn} {i : Insn} (h : c.Tiles p a (front ++ i :: back) u) :
    c.Tiles p a (front ++ [i]) i.stop := by
  generalize hall : front ++ i :: back = is at h
  induction h generalizing front with
  | done a => simp at hall
  | @insn a u j is decode rest ih =>
    cases front with
    | nil =>
      cases hall
      exact .insn decode (.done _)
    | cons k front =>
      cases hall
      exact .insn decode (ih rfl)
  | skip goesOn inside fault _ ih => exact .skip goesOn inside fault (ih hall)

end Tiles

/-- Where a sweep that nobody ends has come to: the end of the code, or under the policy that stops
an address at which nothing can be decoded. -/
def EndsAt (c : Code) (p : Resync) (u : Address) : Prop :=
  u = c.stop ∨ p = .stop ∧ c.contains u = true ∧ ∃ e, c.decode u = .error e

/-- A sweep fills the addresses up to where it ends. -/
theorem exists_tiles {c : Code} {a : Address} (p : Resync) (hlo : c.base ≤ a) (hhi : a ≤ c.stop) :
    ∃ u, c.Tiles p a ((c.linearSweep p a).filterMap Sweep.Step.insn?) u ∧ c.EndsAt p u := by
  rw [Address.le_iff] at hlo hhi
  fun_induction linearSweep c p a with
  | case1 p a hin i hdecode ih =>
    rcases stop_of_decode hdecode with ⟨hstop, _, hle⟩
    rcases ih (by omega) hle with ⟨u, htiles, hend⟩
    exact ⟨u, .insn hdecode htiles, hend⟩
  | case2 a hin e hdecode =>
    -- The strict sweep ends in front of the byte that it cannot decode.
    exact ⟨a, .done a, .inr ⟨rfl, hin, e, hdecode⟩⟩
  | case3 a hin e hdecode ih =>
    rcases toNat_succ_of_contains hin with ⟨hsucc, hle⟩
    rcases ih (by omega) hle with ⟨u, htiles, hend⟩
    exact ⟨u, .skip rfl hin hdecode htiles, hend⟩
  | case4 p a hin =>
    have hstop : c.stop ≤ a := le_of_not_contains hlo (Bool.eq_false_iff.2 hin)
    have ha : a = c.stop := Address.toNat_inj (Nat.le_antisymm hhi hstop)
    exact ⟨a, .done a, .inl ha⟩

end Code

/-! ## What is shown -/

namespace Sweep

variable {σ : Type} {visitor : σ → Insn → σ × Bool}

/-- The visitor, with a list of what it has been shown. -/
def recording (visitor : σ → Insn → σ × Bool) (r : σ × List Insn) (i : Insn) :
    (σ × List Insn) × Bool :=
  (((visitor r.1 i).1, r.2 ++ [i]), (visitor r.1 i).2)

theorem gathered_recording (s : σ) (shown is : List Insn) :
    gathered (recording visitor) (s, shown) is = (gathered visitor s is, shown ++ is) := by
  induction is generalizing s shown with
  | nil => simp [gathered]
  | cons i is ih =>
    have hbehind := ih (visitor s i).1 (shown ++ [i])
    rw [List.append_assoc] at hbehind
    exact hbehind

/-- A visitor accepts none of some instructions, or there is a first that it accepts. -/
theorem acceptsNone_or_accepts (visitor : σ → Insn → σ × Bool) (s : σ) (is : List Insn) :
    AcceptsNone visitor s is ∨
      ∃ front i back, is = front ++ i :: back ∧ AcceptsNone visitor s front ∧
        (visitor (gathered visitor s front) i).2 = true := by
  induction is generalizing s with
  | nil =>
    refine .inl ?_
    intro front i back hsplit
    simp at hsplit
  | cons j is ih =>
    cases hj : (visitor s j).2 with
    | true =>
      refine .inr ⟨[], j, is, rfl, ?_, hj⟩
      intro front i back hsplit
      simp at hsplit
    | false =>
      -- The first one is passed, so it can stand in front of what is said about the others.
      have hcons : ∀ front, AcceptsNone visitor (visitor s j).1 front →
          AcceptsNone visitor s (j :: front) := by
        intro front hfront pre i back hsplit
        cases pre with
        | nil =>
          cases hsplit
          exact hj
        | cons k pre =>
          cases hsplit
          exact hfront pre i back rfl
      rcases ih (visitor s j).1 with hnone | ⟨front, i, back, rfl, hfront, hi⟩
      · exact .inl (hcons is hnone)
      · exact .inr ⟨j :: front, i, back, rfl, hcons front hfront, hi⟩

end Sweep

namespace Code

variable {σ : Type}

/-- The instructions that a sweep of the code shows to its visitor, in order. -/
def presented (c : Code) (p : Resync) (visitor : σ → Insn → σ × Bool) (s : σ) : List Insn :=
  (c.scan p (Sweep.recording visitor) (s, [])).state.2

/-- Either all instructions of the code are shown and none is accepted, or those up to the first
that is. -/
theorem presented_cases (c : Code) (p : Resync) (visitor : σ → Insn → σ × Bool) (s : σ) :
    (Sweep.AcceptsNone visitor s (c.instructions p) ∧
      c.presented p visitor s = c.instructions p ∧
      c.scan p visitor s = ⟨Sweep.gathered visitor s (c.instructions p), none⟩) ∨
    ∃ front i back, c.instructions p = front ++ i :: back ∧
      Sweep.AcceptsNone visitor s front ∧
      (visitor (Sweep.gathered visitor s front) i).2 = true ∧
      c.presented p visitor s = front ++ [i] ∧
      c.scan p visitor s = ⟨Sweep.gathered visitor s (front ++ [i]), some i⟩ := by
  -- Recording changes neither what is gathered nor what is accepted.
  have hrecord (is : List Insn) :
      Sweep.gathered (Sweep.recording visitor) (s, []) is = (Sweep.gathered visitor s is, is) := by
    rw [Sweep.gathered_recording, List.nil_append]
  have hnone {is : List Insn} (h : Sweep.AcceptsNone visitor s is) :
      Sweep.AcceptsNone (Sweep.recording visitor) (s, []) is := by
    intro front i back hsplit
    rw [hrecord]
    exact h front i back hsplit
  rw [presented, scan_eq_visitAll, scan_eq_visitAll]
  rcases Sweep.acceptsNone_or_accepts visitor s (c.instructions p) with
    hall | ⟨front, i, back, hsplit, hfront, hi⟩
  · refine .inl ⟨hall, ?_, Sweep.visitAll_of_acceptsNone hall⟩
    rw [Sweep.visitAll_of_acceptsNone (hnone hall), hrecord]
  · refine .inr ⟨front, i, back, hsplit, hfront, hi, ?_, ?_⟩
    · have haccepts : (Sweep.recording visitor
          (Sweep.gathered (Sweep.recording visitor) (s, []) front) i).2 = true := by
        rw [hrecord]
        exact hi
      rw [hsplit, Sweep.visitAll_of_accepted (hnone hfront) haccepts, hrecord]
    · rw [hsplit, Sweep.visitAll_of_accepted hfront hi]

/-! ## One record for all instructions -/

/-- The sweep from an address on with one record, into which each instruction is decoded and which
the visitor is shown. Gives what the visitor has gathered, what the record holds in the end, and
whether the visitor has accepted that. -/
def scanInto (c : Code) (p : Resync) (visitor : σ → Insn → σ × Bool) (s : σ) (record : Insn)
    (a : Address) : σ × Insn × Bool :=
  if _ : a < c.stop then
    match _ : c.decodeInto record a with
    | (i, none) =>
      match visitor s i with
      | (s, true) => (s, i, true)
      | (s, false) => scanInto c p visitor s i i.stop
    | (i, some _) =>
      match p with
      | .stop => (s, i, false)
      | .byteWise => scanInto c .byteWise visitor s i (a + 1)
  else (s, .blank, false)
termination_by c.stop.toNat - a.toNat
decreasing_by
  · have hstop := stop_of_decode (decodeInto_eq_ok_iff.1 ‹c.decodeInto record a = (i, none)›)
    omega
  · have hlt : a.toNat < c.stop.toNat := ‹a < c.stop›
    have hend := c.stop.toNat_lt
    have hsucc : (a + 1).toNat = a.toNat + 1 := Address.toNat_add_of_lt (by omega)
    omega

/-- The record that the sweep is given does not matter, and in the end it holds the accepted
instruction or nothing. -/
theorem scanInto_eq {c : Code} {a : Address} (p : Resync) (visitor : σ → Insn → σ × Bool) (s : σ)
    (record : Insn) (hlo : c.base ≤ a) {o : Sweep.Outcome σ}
    (ho : Sweep.visitAll visitor s ((c.linearSweep p a).filterMap Sweep.Step.insn?) = o) :
    c.scanInto p visitor s record a = (o.state, o.record, o.found) := by
  rw [Address.le_iff] at hlo
  fun_induction scanInto c p visitor s record a with
  | case1 p s record a hlt i hinto t hvisit =>
    have hdecode : c.decode a = .ok i := decodeInto_eq_ok_iff.1 hinto
    rw [linearSweep_of_ok hdecode] at ho
    simp only [List.filterMap_cons, Sweep.Step.insn?_decoded, Sweep.visitAll, hvisit] at ho
    cases ho
    rfl
  | case2 p s record a hlt i hinto t hvisit ih =>
    have hdecode : c.decode a = .ok i := decodeInto_eq_ok_iff.1 hinto
    have hstop := (stop_of_decode hdecode).1
    rw [linearSweep_of_ok hdecode] at ho
    simp only [List.filterMap_cons, Sweep.Step.insn?_decoded, Sweep.visitAll, hvisit] at ho
    exact ih (by omega) ho
  | case3 s record a hlt i e hinto =>
    -- The strict sweep leaves the record as the failed decoding did, which is blank.
    rcases decodeInto_eq_error_iff.1 hinto with ⟨hdecode, rfl⟩
    have hin : c.contains a = true := Address.isWithin_iff.2 ⟨hlo, hlt⟩
    rw [linearSweep_of_error hin hdecode] at ho
    simp only [List.filterMap_cons, Sweep.Step.insn?_undecodable, List.filterMap_nil,
      Sweep.visitAll] at ho
    cases ho
    rfl
  | case4 s record a hlt i e hinto ih =>
    rcases decodeInto_eq_error_iff.1 hinto with ⟨hdecode, rfl⟩
    have hin : c.contains a = true := Address.isWithin_iff.2 ⟨hlo, hlt⟩
    have hsucc := (toNat_succ_of_contains hin).1
    rw [linearSweep_of_error hin hdecode] at ho
    simp only [List.filterMap_cons, Sweep.Step.insn?_undecodable] at ho
    exact ih (by omega) ho
  | case5 p s record a hge =>
    have hout : c.contains a = false := by
      refine Bool.eq_false_iff.2 fun hin => hge ?_
      exact (Address.isWithin_iff.1 hin).2
    rw [linearSweep_of_not_contains hout] at ho
    cases ho
    rfl

/-! ## The whole sweep -/

theorem exists_tiles_instructions (c : Code) (p : Resync) :
    ∃ u, c.Tiles p c.start (c.instructions p) u ∧ c.EndsAt p u := by
  rw [instructions_eq_linearInstructions]
  exact exists_tiles p (Nat.le_refl _) c.base_le_stop

theorem exists_tiles_presented (c : Code) (p : Resync) (visitor : σ → Insn → σ × Bool) (s : σ) :
    ∃ u, c.Tiles p c.start (c.presented p visitor s) u ∧
      ((c.scan p visitor s).found = true → u = (c.scan p visitor s).record.stop) ∧
      ((c.scan p visitor s).found = false → c.EndsAt p u) := by
  rcases exists_tiles_instructions c p with ⟨u, htiles, hend⟩
  rcases presented_cases c p visitor s with
    ⟨_, hshown, hscan⟩ | ⟨front, i, back, hsplit, _, _, hshown, hscan⟩
  · rw [hshown, hscan]
    refine ⟨u, htiles, ?_, fun _ => hend⟩
    intro hfound
    cases hfound
  · rw [hshown, hscan]
    rw [hsplit] at htiles
    refine ⟨i.stop, htiles.upTo, fun _ => rfl, ?_⟩
    intro hfound
    cases hfound

/-- What the visitor accepts is the last that it is shown, and the record in the end. -/
theorem last_of_accepted {c : Code} {p : Resync} {visitor : σ → Insn → σ × Bool} {s : σ}
    {front back : List Insn} {i : Insn} (h : c.presented p visitor s = front ++ i :: back)
    (hi : (visitor (Sweep.gathered visitor s front) i).2 = true) :
    back = [] ∧ (c.scan p visitor s).accepted = some i := by
  rcases presented_cases c p visitor s with
    ⟨hnone, hshown, _⟩ | ⟨front', j, _, _, hfront, _, hshown, hscan⟩
  · have hnot := hnone front i back (hshown ▸ h)
    rw [hi] at hnot
    cases hnot
  · rw [hshown] at h
    rcases List.eq_nil_or_concat back with rfl | ⟨back', k, rfl⟩
    · have hlast := List.append_inj_right' h rfl
      cases hlast
      exact ⟨rfl, by rw [hscan]⟩
    · -- Otherwise it is among those that the visitor has passed.
      have hpassed : front' = front ++ i :: back' := by
        rw [List.concat_eq_append, ← List.cons_append, ← List.append_assoc] at h
        exact List.append_inj_left' h rfl
      have hnot := hfront front i back' hpassed
      rw [hi] at hnot
      cases hnot

theorem exists_accepted {c : Code} {p : Resync} {visitor : σ → Insn → σ × Bool} {s : σ}
    (h : (c.scan p visitor s).found = true) :
    ∃ front i back, c.presented p visitor s = front ++ i :: back ∧
      (visitor (Sweep.gathered visitor s front) i).2 = true := by
  rcases presented_cases c p visitor s with
    ⟨_, _, hscan⟩ | ⟨front, i, _, _, _, hi, hshown, _⟩
  · rw [hscan] at h
    cases h
  · exact ⟨front, i, [], hshown, hi⟩

theorem state_scan (c : Code) (p : Resync) (visitor : σ → Insn → σ × Bool) (s : σ) :
    (c.scan p visitor s).state = Sweep.gathered visitor s (c.presented p visitor s) := by
  rcases presented_cases c p visitor s with
    ⟨_, hshown, hscan⟩ | ⟨front, i, _, _, _, _, hshown, hscan⟩
  · rw [hshown, hscan]
  · rw [hshown, hscan]

/-- The instructions that a sweep shows to its visitor fill the addresses from the start of the code
to where it ends, apart from single bytes at which nothing can be decoded and which only one of the
policies passes. It ends behind the first accepted instruction, and without one at the end of the
code or, under the other policy, at the first byte at which nothing can be decoded. It finds
something exactly if the visitor accepts something; that is the last instruction shown, and the
record in the end. Otherwise the record is blank. A record handed in makes no difference. -/
theorem scan_tiles (c : Code) (p : Resync) (visitor : σ → Insn → σ × Bool) (s : σ) :
    (∀ i ∈ c.presented p visitor s, c.decode i.start = .ok i ∧ i.LiesIn c i.start) ∧
      ((c.presented p visitor s).Pairwise fun i j => i.start.toNat + i.length ≤ j.start.toNat) ∧
      (∃ u, c.Tiles p c.start (c.presented p visitor s) u ∧
        (∀ a, c.start ≤ a → a < u →
          (∃ i ∈ c.presented p visitor s, i.Covers a) ∨
            (p = .byteWise ∧ (∃ e, c.decode a = .error e) ∧
              ∀ i ∈ c.presented p visitor s, ¬i.Covers a)) ∧
        ((c.scan p visitor s).found = true → u = (c.scan p visitor s).record.stop) ∧
        ((c.scan p visitor s).found = false → c.EndsAt p u)) ∧
      (c.scan p visitor s).state = Sweep.gathered visitor s (c.presented p visitor s) ∧
      ((c.scan p visitor s).found = true ↔
        ∃ front i back, c.presented p visitor s = front ++ i :: back ∧
          (visitor (Sweep.gathered visitor s front) i).2 = true) ∧
      (∀ front i back, c.presented p visitor s = front ++ i :: back →
        (visitor (Sweep.gathered visitor s front) i).2 = true →
          back = [] ∧ (c.scan p visitor s).record = i) ∧
      ((c.scan p visitor s).found = false → (c.scan p visitor s).record = .blank) ∧
      ∀ record, c.scanInto p visitor s record c.start =
        ((c.scan p visitor s).state, (c.scan p visitor s).record, (c.scan p visitor s).found) := by
  rcases exists_tiles_presented c p visitor s with ⟨u, htiles, hfound, hend⟩
  refine ⟨?_, htiles.pairwise, ⟨u, htiles, ?_, hfound, hend⟩, state_scan c p visitor s, ?_, ?_,
    ?_, ?_⟩
  · intro i hi
    have hdecode := (htiles.of_mem i hi).1
    exact ⟨hdecode, liesIn_of_decode hdecode⟩
  · intro a hlow hhigh
    exact htiles.covers_or_fails hlow hhigh
  · constructor
    · exact exists_accepted
    · intro haccepts
      rcases haccepts with ⟨front, i, back, hshown, hi⟩
      rw [Sweep.Outcome.found, (last_of_accepted hshown hi).2, Option.isSome_some]
  · intro front i back hshown hi
    rcases last_of_accepted hshown hi with ⟨hback, haccepted⟩
    rw [Sweep.Outcome.record, haccepted, Option.getD_some]
    exact ⟨hback, rfl⟩
  · intro hnone
    have haccepted : (c.scan p visitor s).accepted = none :=
      Option.isNone_iff_eq_none.1 (Option.isSome_eq_false_iff.1 hnone)
    rw [Sweep.Outcome.record, haccepted, Option.getD_none]
  · intro record
    have hscan := scan_eq_visitAll c p visitor s
    rw [instructions_eq_linearInstructions] at hscan
    exact scanInto_eq p visitor s record (Nat.le_refl _) hscan.symm

/-- Two instructions with a byte between them that begins none, and a call that is cut off. -/
def gappedCode : Code :=
  ⟨.ofNat 0x401000, [0x55, 0x06, 0xc3, 0xe8, 0x00], by decide⟩

/-- A visitor that accepts nothing has all of the code passed in front of it, and leaves no record.
One that accepts the second instruction is shown nothing behind it. -/
theorem scan_tiles_gapped :
    (∃ u, gappedCode.Tiles .byteWise gappedCode.start
        (gappedCode.presented .byteWise (fun (n : Nat) _ => (n + 1, false)) 0) u ∧
        gappedCode.EndsAt .byteWise u) ∧
      (gappedCode.scan .byteWise (fun (n : Nat) _ => (n + 1, false)) 0).record = .blank ∧
      ∃ front i, gappedCode.presented .byteWise (fun (n : Nat) _ => (n + 1, n == 1)) 0 =
          front ++ [i] ∧
        (gappedCode.scan .byteWise (fun (n : Nat) _ => (n + 1, n == 1)) 0).record = i := by
  rcases scan_tiles gappedCode .byteWise (fun (n : Nat) _ => (n + 1, false)) 0 with
    ⟨_, _, ⟨u, htiles, _, _, hend⟩, _, _, _, hblank, _⟩
  rcases scan_tiles gappedCode .byteWise (fun (n : Nat) _ => (n + 1, n == 1)) 0 with
    ⟨_, _, _, _, hfound, hlast, _, _⟩
  rcases hfound.1 (by decide) with ⟨front, i, back, hshown, hi⟩
  rcases hlast front i back hshown hi with ⟨rfl, hrecord⟩
  exact ⟨⟨u, htiles, hend (by decide)⟩, hblank (by decide), front, i, hshown, hrecord⟩

end Code

end CodeSurvey
