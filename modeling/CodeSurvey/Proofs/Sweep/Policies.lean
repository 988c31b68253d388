import CodeSurvey.Proofs.Sweep.Rounds

/-!
# The two policies

A sweep that stops where nothing can be decoded does what one that goes on does, up to there. A
search under the first policy finds nothing that the search under the second does not find at the
same point, in every round.

* `Sweep.steps_stop_isPrefix_byteWise` : the steps of one sweep;
* `Sweep.starts_isPrefix_append` : more steps give more starts, behind those that there were;
* `Query.firstHit?_of_stop` : a first hit under the strict policy is one under the other;
* `Query.hitsIn_stop_isPrefix_byteWise` : so are all hits, one after the other;
* `Query.hitsIn_landingPad` : markers are found without decoding, under either policy;
* `Query.pairwise_hitsIn` : under either policy, addresses of hits only grow.
-/

namespace CodeSurvey

/-! ## One sweep -/

/-- Both sweeps do the same as long as there is something to decode. -/
theorem Sweep.steps_stop_isPrefix_byteWise (a : Address) (skip : Nat) (bs : List UInt8) :
    steps .stop a skip bs <+: steps .byteWise a skip bs := by
  induction bs generalizing a skip with
  | nil => simp [steps]
  | cons b bs ih =>
    cases skip with
    | succ n => simpa [steps] using ih (a + 1) n
    | zero =>
      cases hdecode : Insn.decodeBytes a (b :: bs) with
      | ok i => simpa [steps, hdecode] using ih (a + 1) (i.length - 1)
      | error e =>
        -- The last step of the strict sweep is one of the other too.
        simp [steps, hdecode]

/-- Whether a step is a start depends on what came before it and not on what comes behind. -/
theorem Sweep.starts_isPrefix_append (admits : Address → Bool) (afterFiller : Bool)
    (l more : List Step) :
    starts admits afterFiller l <+: starts admits afterFiller (l ++ more) := by
  induction l generalizing afterFiller with
  | nil => exact List.nil_prefix
  | cons s rest ih =>
    rw [List.cons_append, starts, starts]
    split
    · exact (List.prefix_cons_inj s.address).2 (ih s.isPadding)
    · exact ih s.isPadding

namespace Code

variable {c : Code}

theorem sweep_stop_isPrefix_byteWise (c : Code) : c.sweep .stop <+: c.sweep .byteWise :=
  Sweep.steps_stop_isPrefix_byteWise c.start 0 c.bytes

theorem findFirst?_of_stop {wanted : Insn → Bool} {i : Insn}
    (h : c.findFirst? .stop wanted = some i) : c.findFirst? .byteWise wanted = some i := by
  rw [findFirst?_eq] at h ⊢
  have hfront : c.instructions .stop <+: c.instructions .byteWise :=
    c.sweep_stop_isPrefix_byteWise.filterMap Sweep.Step.insn?
  exact hfront.find?_eq_some h

theorem findAfterPadding?_of_stop {alignment : Option Nat} {a : Address}
    (h : c.findAfterPadding? ⟨.stop, alignment⟩ = some a) :
    c.findAfterPadding? ⟨.byteWise, alignment⟩ = some a := by
  rw [findAfterPadding?_eq] at h ⊢
  rcases c.sweep_stop_isPrefix_byteWise with ⟨more, hmore⟩
  -- What the strict sweep does not get to lies behind all that it meets.
  have hfront := Sweep.starts_isPrefix_append (ScanOptions.admits ⟨.stop, alignment⟩) false
    (c.sweep .stop) more
  rcases List.head?_eq_some_iff.1 h with ⟨as, has⟩
  rw [hmore, has] at hfront
  rcases hfront with ⟨bs, hbs⟩
  exact List.head?_eq_some_iff.2 ⟨as ++ bs, hbs.symm⟩

end Code

namespace Query

variable {q : Query} {o : ScanOptions} {alignment : Option Nat} {segment : Nat} {c rest : Code}
  {a : Address} {h : Hit}

/-! ## One round -/

theorem firstHit?_of_stop {segmentAt : Address → Nat}
    (hfirst : q.firstHit? ⟨.stop, alignment⟩ segmentAt rest = some h) :
    q.firstHit? ⟨.byteWise, alignment⟩ segmentAt rest = some h := by
  cases q with
  | calls target =>
    rcases Option.map_eq_some_iff.1 hfirst with ⟨i, hi, rfl⟩
    exact Option.map_eq_some_iff.2 ⟨i, Code.findFirst?_of_stop hi, rfl⟩
  | leas displacement =>
    rcases Option.map_eq_some_iff.1 hfirst with ⟨i, hi, rfl⟩
    exact Option.map_eq_some_iff.2 ⟨i, Code.findFirst?_of_stop hi, rfl⟩
  | prologues mode =>
    rcases Option.map_eq_some_iff.1 hfirst with ⟨b, hb, rfl⟩
    cases mode with
    | landingPad => exact hfirst
    | padding => exact Option.map_eq_some_iff.2 ⟨b, Code.findAfterPadding?_of_stop hb, rfl⟩

/-! ## All rounds -/

/-- Where the strict search is done the other may go on. Until then both are at the same hit and are
resumed at the same address, as that depends on the hit alone. -/
theorem hitsFrom_stop_isPrefix_byteWise (q : Query) (alignment : Option Nat) (segment : Nat)
    (c rest : Code) (rounds : Nat) :
    q.hitsFrom ⟨.stop, alignment⟩ segment c rounds rest <+:
      q.hitsFrom ⟨.byteWise, alignment⟩ segment c rounds rest := by
  induction rounds generalizing rest with
  | zero => exact List.nil_prefix
  | succ n ih =>
    cases hfirst : q.firstHit? ⟨.stop, alignment⟩ (fun _ => segment) rest with
    | none =>
      rw [hitsFrom_of_none hfirst]
      exact List.nil_prefix
    | some h =>
      rw [hitsFrom_of_some hfirst, hitsFrom_of_some (firstHit?_of_stop hfirst)]
      exact (List.prefix_cons_inj h).2 (ih _)

theorem hitsIn_stop_isPrefix_byteWise (q : Query) (alignment : Option Nat) (segment : Nat)
    (c : Code) :
    q.hitsIn ⟨.stop, alignment⟩ segment c <+: q.hitsIn ⟨.byteWise, alignment⟩ segment c :=
  q.hitsFrom_stop_isPrefix_byteWise alignment segment c c (c.length + 1)

/-- Options matter only in so far as first hits depend on them. -/
theorem hitsFrom_congr_of_firstHit? {o o' : ScanOptions}
    (hsame : ∀ rest, q.firstHit? o (fun _ => segment) rest =
      q.firstHit? o' (fun _ => segment) rest) (rounds : Nat) (rest : Code) :
    q.hitsFrom o segment c rounds rest = q.hitsFrom o' segment c rounds rest := by
  induction rounds generalizing rest with
  | zero => rfl
  | succ n ih =>
    cases hfirst : q.firstHit? o (fun _ => segment) rest with
    | none => rw [hitsFrom_of_none hfirst, hitsFrom_of_none (hsame rest ▸ hfirst)]
    | some h => rw [hitsFrom_of_some hfirst, hitsFrom_of_some (hsame rest ▸ hfirst), ih]

/-- The search for markers reads bytes and decodes nothing. -/
theorem hitsIn_landingPad (p p' : Resync) (alignment : Option Nat) (segment : Nat) (c : Code) :
    (prologues .landingPad).hitsIn ⟨p, alignment⟩ segment c =
      (prologues .landingPad).hitsIn ⟨p', alignment⟩ segment c := by
  have hsame (rest : Code) :
      (prologues .landingPad).firstHit? ⟨p, alignment⟩ (fun _ => segment) rest =
        (prologues .landingPad).firstHit? ⟨p', alignment⟩ (fun _ => segment) rest := rfl
  exact hitsFrom_congr_of_firstHit? hsame (c.length + 1) c

/-- Each round is about what lies behind the hit of the last one. -/
theorem pairwise_hitsFrom {rounds : Nat} (htail : c.IsTail rest a) :
    (q.hitsFrom o segment c rounds rest).Pairwise fun h k => h.address < k.address := by
  induction rounds generalizing a rest with
  | zero => exact .nil
  | succ n ih =>
    cases hfirst : q.firstHit? o (fun _ => segment) rest with
    | none =>
      rw [hitsFrom_of_none hfirst]
      exact .nil
    | some h =>
      have hup := (firstHit?_bounds htail hfirst).2.1
      have hnext := isTail_resumeAt htail hfirst
      rw [hitsFrom_of_some hfirst]
      refine List.pairwise_cons.2 ⟨?_, ih hnext⟩
      intro k hk
      have hbehind := (mem_hitsFrom_bounds hnext hk).1
      rw [Address.lt_iff]
      omega

theorem pairwise_hitsIn (q : Query) (o : ScanOptions) (segment : Nat) (c : Code) :
    (q.hitsIn o segment c).Pairwise fun h k => h.address < k.address :=
  pairwise_hitsFrom c.isTail_self

end Query

end CodeSurvey
