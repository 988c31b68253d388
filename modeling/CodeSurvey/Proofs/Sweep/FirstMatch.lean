import CodeSurvey.Sweep.Prologue
import CodeSurvey.Sweep.Search
import CodeSurvey.Proofs.Decode.Placement

/-!
# First matches

A search ends at its first match. Each is read off the list of everything that the sweep meets.

* `Code.findFirst?_eq` : the first instruction with a property;
* `Sweep.starts admits afterFiller l` : all function starts behind filler among some steps;
* `Code.findAfterPadding?_eq` : the first of them;
* `Sweep.mem_starts_iff` : a start is an admitted step that is no filler and comes right after one.
-/

namespace CodeSurvey

namespace Sweep

/-! ## Steps -/

namespace Step

@[simp] theorem insn?_decoded (i : Insn) : (decoded i).insn? = some i := rfl

@[simp] theorem insn?_undecodable (a : Address) : (undecodable a).insn? = none := rfl

@[simp] theorem isPadding_decoded (i : Insn) : (decoded i).isPadding = i.kind.isPadding := rfl

@[simp] theorem isPadding_undecodable (a : Address) : (undecodable a).isPadding = false := rfl

@[simp] theorem address_decoded (i : Insn) : (decoded i).address = i.start := rfl

@[simp] theorem address_undecodable (a : Address) : (undecodable a).address = a := rfl

end Step

/-! ## Visitors -/

/-- Shows instructions to a visitor, up to the first that it accepts. -/
def visitAll {σ : Type} (visitor : σ → Insn → σ × Bool) (s : σ) : List Insn → Outcome σ
  | [] => ⟨s, none⟩
  | i :: rest =>
    match visitor s i with
    | (s, true) => ⟨s, some i⟩
    | (s, false) => visitAll visitor s rest

theorem visit_eq_visitAll {σ : Type} (p : Resync) (visitor : σ → Insn → σ × Bool) (s : σ)
    (a : Address) (skip : Nat) (bs : List UInt8) :
    visit p visitor s a skip bs =
      visitAll visitor s ((steps p a skip bs).filterMap Step.insn?) := by
  induction bs generalizing s a skip with
  | nil => simp [visit, steps, visitAll]
  | cons b bs ih =>
    cases skip with
    | succ n => simpa [visit, steps] using ih s (a + 1) n
    | zero =>
      cases hdecode : Insn.decodeBytes a (b :: bs) with
      | ok i =>
        cases hvisit : visitor s i with
        | mk t accepted =>
          cases accepted with
          | true => simp [visit, steps, visitAll, hdecode, hvisit]
          | false =>
            simpa [visit, steps, visitAll, hdecode, hvisit] using
              ih t (a + 1) (i.length - 1)
      | error e =>
        cases p with
        | stop => simp [visit, steps, visitAll, hdecode, List.filterMap_cons]
        | byteWise => simpa [visit, steps, hdecode, List.filterMap_cons] using ih s (a + 1) 0

theorem accepted_visitAll {σ : Type} (wanted : Insn → Bool) (s : σ) (is : List Insn) :
    (visitAll (fun s i => (s, wanted i)) s is).accepted = is.find? wanted := by
  induction is with
  | nil => rfl
  | cons i is ih =>
    cases hwanted : wanted i with
    | true => simp [visitAll, hwanted]
    | false => simpa [visitAll, hwanted] using ih

end Sweep

/-- A search for an instruction gives the first that a sweep of the whole code meets. -/
theorem Code.findFirst?_eq (c : Code) (p : Resync) (wanted : Insn → Bool) :
    c.findFirst? p wanted = (c.instructions p).find? wanted := by
  rw [findFirst?, scan, Sweep.visit_eq_visitAll, Sweep.accepted_visitAll]
  rfl

namespace Sweep

/-! ## Starts behind filler -/

/-- The admitted steps that are no filler and follow some. The flag says whether filler came
last. -/
def starts (admits : Address → Bool) : (afterFiller : Bool) → List Step → List Address
  | _, [] => []
  | afterFiller, s :: rest =>
    if !s.isPadding && afterFiller && admits s.address then
      s.address :: starts admits s.isPadding rest
    else starts admits s.isPadding rest

theorem findAfterPadding?_eq_head? (p : Resync) (admits : Address → Bool) (afterFiller : Bool)
    (a : Address) (skip : Nat) (bs : List UInt8) :
    findAfterPadding? p admits afterFiller a skip bs =
      (starts admits afterFiller (steps p a skip bs)).head? := by
  induction bs generalizing afterFiller a skip with
  | nil => simp [findAfterPadding?, steps, starts]
  | cons b bs ih =>
    cases skip with
    | succ n => simpa [findAfterPadding?, steps] using ih afterFiller (a + 1) n
    | zero =>
      cases hdecode : Insn.decodeBytes a (b :: bs) with
      | ok i =>
        have hstart := Insn.start_of_decodeBytes hdecode
        -- Without a hit the flag becomes what this step is, on both sides.
        cases hpad : i.kind.isPadding with
        | true =>
          simpa [findAfterPadding?, steps, starts, hdecode, hpad] using
            ih true (a + 1) (i.length - 1)
        | false =>
          cases hhit : afterFiller && admits a with
          | true =>
            simp [findAfterPadding?, steps, starts, hdecode, hpad, hhit, hstart]
          | false =>
            simpa [findAfterPadding?, steps, starts, hdecode, hpad, hhit, hstart] using
              ih false (a + 1) (i.length - 1)
      | error e =>
        -- A policy that stops here leaves no more steps for a start.
        cases hhit : afterFiller && admits a with
        | true =>
          cases p with
          | stop =>
            simp [findAfterPadding?, steps, starts, hdecode, hhit]
          | byteWise =>
            simp [findAfterPadding?, steps, starts, hdecode, hhit]
        | false =>
          cases p with
          | stop =>
            simp [findAfterPadding?, steps, starts, hdecode, hhit]
          | byteWise =>
            simpa [findAfterPadding?, steps, starts, hdecode, hhit] using ih false (a + 1) 0

/-- Behind a start the sweep is not behind filler, whatever came before. -/
theorem starts_eq_cons {admits : Address → Bool} {afterFiller : Bool} {l : List Step} {a : Address}
    {as : List Address} (h : starts admits afterFiller l = a :: as) :
    ∃ pre s post, l = pre ++ s :: post ∧ s.address = a ∧ as = starts admits false post := by
  induction l generalizing afterFiller with
  | nil => simp [starts] at h
  | cons s rest ih =>
    rw [starts] at h
    split at h
    · next hhit =>
      have hpad : s.isPadding = false := by
        simp only [Bool.and_eq_true, Bool.not_eq_true'] at hhit
        exact hhit.1.1
      rw [hpad] at h
      cases h
      exact ⟨[], s, rest, rfl, rfl, rfl⟩
    · rcases ih h with ⟨pre, t, post, rfl, haddress, has⟩
      exact ⟨s :: pre, t, post, rfl, haddress, has⟩

theorem starts_sublist (admits : Address → Bool) (afterFiller : Bool) (l : List Step) :
    (starts admits afterFiller l).Sublist (l.map Step.address) := by
  induction l generalizing afterFiller with
  | nil => exact .slnil
  | cons s rest ih =>
    rw [starts, List.map_cons]
    split
    · exact (ih s.isPadding).cons_cons s.address
    · exact (ih s.isPadding).cons s.address

theorem mem_starts_cons {admits : Address → Bool} {afterFiller : Bool} {s : Step}
    {rest : List Step} {a : Address} :
    a ∈ starts admits afterFiller (s :: rest) ↔
      (afterFiller = true ∧ s.isPadding = false ∧ s.address = a ∧ admits a = true) ∨
        a ∈ starts admits s.isPadding rest := by
  rw [starts]
  split
  · next hhit =>
    simp only [Bool.and_eq_true, Bool.not_eq_true'] at hhit
    rcases hhit with ⟨⟨hpad, hflag⟩, hadmits⟩
    rw [List.mem_cons]
    constructor
    · rintro (rfl | hmem)
      · exact .inl ⟨hflag, hpad, rfl, hadmits⟩
      · exact .inr hmem
    · rintro (⟨_, _, haddress, _⟩ | hmem)
      · exact .inl haddress.symm
      · exact .inr hmem
  · next hmiss =>
    constructor
    · exact .inr
    · rintro (⟨hflag, hpad, rfl, hadmits⟩ | hmem)
      · simp [hflag, hpad, hadmits] at hmiss
      · exact hmem

/-- Two steps next to each other among some: one that is filler, and one at the address that is
not. -/
def BehindFiller (l : List Step) (a : Address) : Prop :=
  ∃ pre prev cur post, l = pre ++ prev :: cur :: post ∧ prev.isPadding = true ∧
    cur.isPadding = false ∧ cur.address = a

theorem behindFiller_cons_cons {prev cur : Step} {rest : List Step} {a : Address} :
    BehindFiller (prev :: cur :: rest) a ↔
      (prev.isPadding = true ∧ cur.isPadding = false ∧ cur.address = a) ∨
        BehindFiller (cur :: rest) a := by
  constructor
  · rintro ⟨pre, p, s, post, hsplit, hpad, hnot, haddress⟩
    cases pre with
    | nil =>
      cases hsplit
      exact .inl ⟨hpad, hnot, haddress⟩
    | cons u pre => exact .inr ⟨pre, p, s, post, (List.cons.inj hsplit).2, hpad, hnot, haddress⟩
  · rintro (⟨hpad, hnot, haddress⟩ | ⟨pre, p, s, post, hsplit, hpad, hnot, haddress⟩)
    · exact ⟨[], prev, cur, rest, rfl, hpad, hnot, haddress⟩
    · exact ⟨prev :: pre, p, s, post, by rw [hsplit, List.cons_append], hpad, hnot, haddress⟩

theorem mem_starts_behind {admits : Address → Bool} {prev : Step} {l : List Step} {a : Address} :
    a ∈ starts admits prev.isPadding l ↔ BehindFiller (prev :: l) a ∧ admits a = true := by
  induction l generalizing prev with
  | nil =>
    constructor
    · intro h
      simp [starts] at h
    · rintro ⟨⟨pre, p, s, post, hsplit, _⟩, _⟩
      have hlen := congrArg List.length hsplit
      simp only [List.length_append, List.length_cons, List.length_nil] at hlen
      omega
  | cons s rest ih =>
    rw [mem_starts_cons, ih, behindFiller_cons_cons, or_and_right]
    simp only [and_assoc]

/-- At the start of a sweep no filler has been met. -/
theorem mem_starts_iff {admits : Address → Bool} {l : List Step} {a : Address} :
    a ∈ starts admits false l ↔ BehindFiller l a ∧ admits a = true := by
  cases l with
  | nil => simp [starts, BehindFiller]
  | cons s rest => simp [mem_starts_cons, mem_starts_behind]

end Sweep

/-- The search for filler gives the first start behind some. -/
theorem Code.findAfterPadding?_eq (c : Code) (o : ScanOptions) :
    c.findAfterPadding? o = (Sweep.starts o.admits false (c.sweep o.resync)).head? :=
  Sweep.findAfterPadding?_eq_head? _ _ _ _ _ _

end CodeSurvey
