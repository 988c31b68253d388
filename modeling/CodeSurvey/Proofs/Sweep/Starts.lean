import CodeSurvey.Proofs.Sweep.FirstMatch
import CodeSurvey.Proofs.Sweep.Linear

/-!
# Function starts behind filler

A search behind filler keeps a flag that says whether filler came last. What it finds is described
without the flag, by two steps of a sweep that stand next to each other.

* `Code.FollowsPadding c p a` : the step at `a` is no filler and comes right after some;
* `Code.mem_starts_linearSweep_iff` : the starts of a sweep are these, where they are aligned;
* `Code.IsCandidate c o a` : such a start under the options;
* `Code.findPrologue?_padding_iff` : the search gives the first candidate.
-/

namespace CodeSurvey

/-! ## Conditions -/

theorem ScanOptions.admits_iff {o : ScanOptions} {a : Address} :
    o.admits a = true ↔ ∀ n ∈ o.functionAlignment, n ≤ 1 ∨ a.toNat % n = 0 := by
  cases h : o.functionAlignment with
  | none => simp [admits, h]
  | some n => simp [admits, h, Address.isAligned]

theorem InsnKind.isPadding_iff {k : InsnKind} : k.isPadding = true ↔ k = .nop ∨ k = .int3 := by
  cases k <;> simp [isPadding]

theorem Sweep.Step.isPadding_eq_true_iff {s : Step} :
    s.isPadding = true ↔ ∃ i, s = .decoded i ∧ (i.kind = .nop ∨ i.kind = .int3) := by
  cases s with
  | undecodable a => simp
  | decoded i => simp [InsnKind.isPadding_iff]

theorem Sweep.Step.isPadding_eq_false_iff {s : Step} :
    s.isPadding = false ↔ ∀ i, s = .decoded i → i.kind ≠ .nop ∧ i.kind ≠ .int3 := by
  rw [← Bool.not_eq_true, isPadding_eq_true_iff, not_exists]
  refine forall_congr' ?_
  intro i
  rw [not_and, not_or]

namespace Code

/-! ## Starts of a sweep -/

/-- In one linear sweep of the code the step at the address comes right after an instruction that is
filler and is none itself. -/
def FollowsPadding (c : Code) (p : Resync) (a : Address) : Prop :=
  ∃ pre i step post, c.linearSweep p c.start = pre ++ .decoded i :: step :: post ∧
    (i.kind = .nop ∨ i.kind = .int3) ∧ step.address = a ∧
      ∀ j, step = .decoded j → j.kind ≠ .nop ∧ j.kind ≠ .int3

theorem followsPadding_iff {c : Code} {p : Resync} {a : Address} :
    c.FollowsPadding p a ↔ Sweep.BehindFiller (c.linearSweep p c.start) a := by
  constructor
  · intro h
    rcases h with ⟨pre, i, step, post, hsweep, hkind, haddress, hstep⟩
    exact ⟨pre, .decoded i, step, post, hsweep, InsnKind.isPadding_iff.2 hkind,
      Sweep.Step.isPadding_eq_false_iff.2 hstep, haddress⟩
  · intro h
    rcases h with ⟨pre, prev, step, post, hsweep, hpad, hstep, haddress⟩
    rcases Sweep.Step.isPadding_eq_true_iff.1 hpad with ⟨i, rfl, hkind⟩
    exact ⟨pre, i, step, post, hsweep, hkind, haddress,
      Sweep.Step.isPadding_eq_false_iff.1 hstep⟩

theorem mem_starts_linearSweep_iff {c : Code} {o : ScanOptions} {p : Resync} {a : Address} :
    a ∈ Sweep.starts o.admits false (c.linearSweep p c.start) ↔
      (∀ n ∈ o.functionAlignment, n ≤ 1 ∨ a.toNat % n = 0) ∧ c.FollowsPadding p a := by
  rw [Sweep.mem_starts_iff, followsPadding_iff, ScanOptions.admits_iff, and_comm]

theorem starts_pairwise (c : Code) (p : Resync) (admits : Address → Bool) (a : Address) :
    (Sweep.starts admits false (c.linearSweep p a)).Pairwise (· < ·) := by
  have haddresses : ((c.linearSweep p a).map Sweep.Step.address).Pairwise (· < ·) :=
    List.pairwise_map.2 (c.linearSweep_pairwise p a)
  exact haddresses.sublist (Sweep.starts_sublist admits false _)

/-! ## The first start -/

/-- The address is aligned as the options ask, and follows filler in a sweep under their policy. -/
def IsCandidate (c : Code) (o : ScanOptions) (a : Address) : Prop :=
  (∀ n ∈ o.functionAlignment, n ≤ 1 ∨ a.toNat % n = 0) ∧ c.FollowsPadding o.resync a

/-- Filler is not empty, so what follows it lies above the start of the code. -/
theorem FollowsPadding.bounds {c : Code} {p : Resync} {a : Address} (h : c.FollowsPadding p a) :
    c.contains a = true ∧ c.start < a := by
  rcases h with ⟨pre, i, step, post, hsweep, _, haddress, _⟩
  rcases linearSweep_behind hsweep with ⟨habove, _, hgo⟩
  rcases hgo with hpost | ⟨_, u, hu⟩
  · rcases linearSweep_eq_cons hpost.symm with ⟨hstart, hup, hstop, _⟩
    have hnext : (Sweep.Step.decoded i).next = a := hstart.symm.trans haddress
    rw [hnext] at habove hup
    refine ⟨Address.isWithin_iff.2 ⟨Nat.le_of_lt habove, by omega⟩, habove⟩
  · cases hu

theorem findPrologue?_padding_eq (c : Code) (o : ScanOptions) :
    c.findPrologue? o .padding =
      (Sweep.starts o.admits false (c.linearSweep o.resync c.start)).head? := by
  rw [← sweep_eq_linearSweep]
  exact c.findAfterPadding?_eq o

theorem mem_starts_iff_isCandidate {c : Code} {o : ScanOptions} {a : Address} :
    a ∈ Sweep.starts o.admits false (c.linearSweep o.resync c.start) ↔ c.IsCandidate o a :=
  mem_starts_linearSweep_iff

theorem findPrologue?_padding_eq_some_iff {c : Code} {o : ScanOptions} {a : Address} :
    c.findPrologue? o .padding = some a ↔
      c.IsCandidate o a ∧ ∀ b, c.IsCandidate o b → a ≤ b := by
  rw [findPrologue?_padding_eq,
    Address.head?_eq_some_iff (c.starts_pairwise o.resync o.admits c.start)]
  simp only [mem_starts_iff_isCandidate]

theorem findPrologue?_padding_eq_none_iff {c : Code} {o : ScanOptions} :
    c.findPrologue? o .padding = none ↔ ∀ a, ¬c.IsCandidate o a := by
  rw [findPrologue?_padding_eq, List.head?_eq_none_iff, List.eq_nil_iff_forall_not_mem]
  simp only [mem_starts_iff_isCandidate]

/-- Behind filler at the end of a sweep there is no start. -/
theorem IsCandidate.mem_of_run {c : Code} {o : ScanOptions} {a : Address}
    (h : c.IsCandidate o a) {pre run : List Sweep.Step}
    (hsweep : c.linearSweep o.resync c.start = pre ++ run)
    (hrun : ∀ s ∈ run, ∃ i, s = .decoded i ∧ (i.kind = .nop ∨ i.kind = .int3)) :
    ∃ s ∈ pre, s.address = a := by
  rcases h.2 with ⟨front, i, step, back, hsplit, _, haddress, hstep⟩
  have hmem : step ∈ c.linearSweep o.resync c.start := by
    rw [hsplit]
    simp
  rw [hsweep] at hmem
  -- The step at a candidate is no filler, so it is not one of the run.
  rcases List.mem_append.1 hmem with hpre | hpad
  · exact ⟨step, hpre, haddress⟩
  · rcases hrun step hpad with ⟨j, rfl, hkind⟩
    have hnot := hstep j rfl
    rcases hkind with hnop | hint3
    · exact absurd hnop hnot.1
    · exact absurd hint3 hnot.2

/-- The search behind filler gives the first candidate of the sweep, and nothing exactly if there is
none. What it gives lies in the code and above its start, and filler that goes on to the end of the
sweep is not followed by anything. -/
theorem findPrologue?_padding_iff (c : Code) (o : ScanOptions) :
    (∀ a, c.findPrologue? o .padding = some a ↔
        c.IsCandidate o a ∧ ∀ b, c.IsCandidate o b → a ≤ b) ∧
      (c.findPrologue? o .padding = none ↔ ∀ a, ¬c.IsCandidate o a) ∧
      ((c.linearSweep o.resync c.start).Pairwise fun s t => s.address < t.address) ∧
      (∀ a, c.findPrologue? o .padding = some a → c.contains a = true ∧ c.start < a) ∧
      ∀ pre run, c.linearSweep o.resync c.start = pre ++ run →
        (∀ s ∈ run, ∃ i, s = .decoded i ∧ (i.kind = .nop ∨ i.kind = .int3)) →
        (∀ s ∈ pre, ¬c.IsCandidate o s.address) → c.findPrologue? o .padding = none := by
  refine ⟨fun a => findPrologue?_padding_eq_some_iff, findPrologue?_padding_eq_none_iff,
    c.linearSweep_pairwise o.resync c.start, ?_, ?_⟩
  · intro a ha
    exact (findPrologue?_padding_eq_some_iff.1 ha).1.2.bounds
  · intro pre run hsweep hrun hpre
    refine findPrologue?_padding_eq_none_iff.2 ?_
    intro a ha
    rcases ha.mem_of_run hsweep hrun with ⟨s, hs, rfl⟩
    exact hpre s hs ha

/-- Filler in front of a return that is not aligned, and then filler in front of a byte that cannot
be decoded and is. -/
def paddedCode : Code :=
  ⟨.ofNat 0x401000, [0x90, 0xc3, 0xcc, 0xcc, 0x06], by decide⟩

/-- Filler and nothing else. -/
def fillerCode : Code :=
  ⟨.ofNat 0x401000, [0x66, 0x90, 0xcc], by decide⟩

theorem findPrologue?_padding_iff_padded :
    paddedCode.findPrologue? ⟨.byteWise, some 4⟩ .padding = some (.ofNat 0x401004) ∧
      paddedCode.IsCandidate ⟨.byteWise, some 4⟩ (.ofNat 0x401004) ∧
      paddedCode.contains (.ofNat 0x401004) = true ∧ paddedCode.start < .ofNat 0x401004 ∧
      fillerCode.findPrologue? {} .padding = none := by
  have hpadded := findPrologue?_padding_iff paddedCode ⟨.byteWise, some 4⟩
  have hfiller := findPrologue?_padding_iff fillerCode {}
  have hfound : paddedCode.findPrologue? ⟨.byteWise, some 4⟩ .padding =
      some (.ofNat 0x401004) := by decide
  have hinside := hpadded.2.2.2.1 _ hfound
  have hrun : ∀ s ∈ fillerCode.linearSweep .stop fillerCode.start,
      ∃ i, s = .decoded i ∧ (i.kind = .nop ∨ i.kind = .int3) := by
    have hall : ∀ s ∈ fillerCode.sweep .stop, s.isPadding = true := by decide
    rw [sweep_eq_linearSweep] at hall
    intro s hs
    exact Sweep.Step.isPadding_eq_true_iff.1 (hall s hs)
  exact ⟨hfound, ((hpadded.1 _).1 hfound).1, hinside.1, hinside.2,
    hfiller.2.2.2.2 [] _ rfl hrun (by simp)⟩

end Code

end CodeSurvey
