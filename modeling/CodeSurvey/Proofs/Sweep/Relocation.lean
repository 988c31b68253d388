import CodeSurvey.Proofs.Decode.Relocation
import CodeSurvey.Proofs.Sweep.Rounds

/-!
# Searches of relocated code

The same bytes placed somewhere else are searched with the same hits, as far away as the code is.
Sweeps decide nothing by an address. Searches for function starts do, by its alignment, and the
distance has to be a multiple of what they ask for.

* `Sweep.steps_offset` : a sweep meets the same, wherever it starts;
* `Code.IsMoved d c c'` : `c'` has the bytes of `c`, and lies `d` places farther up;
* `Query.moved` : the query for what lies so far away;
* `Query.firstHit?_moved`, `resumeAt_moved` : one round, and where the next one begins;
* `Query.hitsFrom_moved` : all rounds;
* `Query.hitsIn_moved` : all hits in the code of a segment.
-/

namespace CodeSurvey

namespace Sweep

/-! ## Sweeps -/

namespace Step

/-- What a sweep meets `d` places farther up. -/
def moved (d : Int) : Step → Step
  | .decoded i => .decoded (i.moved d)
  | .undecodable a => .undecodable (a.offset d)

@[simp] theorem address_moved (d : Int) (s : Step) : (s.moved d).address = s.address.offset d := by
  cases s with
  | decoded i => rfl
  | undecodable a => rfl

@[simp] theorem isPadding_moved (d : Int) (s : Step) : (s.moved d).isPadding = s.isPadding := by
  cases s with
  | decoded i => rfl
  | undecodable a => rfl

theorem insn?_moved (d : Int) (s : Step) : (s.moved d).insn? = s.insn?.map (Insn.moved d) := by
  cases s with
  | decoded i => rfl
  | undecodable a => rfl

end Step

theorem steps_offset (p : Resync) (a : Address) (d : Int) (skip : Nat) (bs : List UInt8) :
    steps p (a.offset d) skip bs = (steps p a skip bs).map (Step.moved d) := by
  induction bs generalizing a skip with
  | nil => simp [steps]
  | cons b bs ih =>
    cases skip with
    | succ n =>
      calc
        steps p (a.offset d) (n + 1) (b :: bs) = steps p (a.offset d + 1) n bs := rfl
        _ = (steps p (a + 1) n bs).map (Step.moved d) := by rw [Address.offset_add, ih]
    | zero =>
      cases hdecode : Insn.decodeBytes a (b :: bs) with
      | ok i =>
        -- The moved instruction is as long, so both sweeps pass over as many bytes.
        have hmoved := Insn.decodeBytes_offset_of_ok hdecode d
        simp only [steps, hdecode, hmoved, Address.offset_add, ih, Insn.length_moved,
          List.map_cons, Step.moved]
      | error e =>
        have hmoved := Insn.decodeBytes_offset_of_error hdecode d
        cases p with
        | stop => simp only [steps, hdecode, hmoved, List.map_cons, List.map_nil, Step.moved]
        | byteWise =>
          simp only [steps, hdecode, hmoved, Address.offset_add, ih, List.map_cons, Step.moved]

/-! ## Function starts -/

variable {admits : Address → Bool} {d : Int}

/-- Where the moved steps are admitted as before, they have the same starts. -/
theorem starts_moved {l : List Step}
    (hadmits : ∀ s ∈ l, admits (s.address.offset d) = admits s.address) (afterFiller : Bool) :
    starts admits afterFiller (l.map (Step.moved d)) =
      (starts admits afterFiller l).map fun a => a.offset d := by
  induction l generalizing afterFiller with
  | nil => simp [starts]
  | cons s rest ih =>
    have hhere := hadmits s List.mem_cons_self
    have hrest := ih fun t ht => hadmits t (List.mem_cons_of_mem s ht)
    rw [List.map_cons, starts, starts, Step.isPadding_moved, Step.address_moved, hhere]
    split
    · rw [hrest, List.map_cons]
    · exact hrest s.isPadding

theorem findMarker?_offset {a : Address} {bs : List UInt8}
    (hadmits : ∀ n < bs.length, admits ((a + n).offset d) = admits (a + n)) :
    findMarker? admits (a.offset d) bs = (findMarker? admits a bs).map fun b => b.offset d := by
  induction bs generalizing a with
  | nil => rfl
  | cons b bs ih =>
    have hhere : admits (a.offset d) = admits a := by
      simpa [Address.add_zero] using hadmits 0 (Nat.zero_lt_succ _)
    have hrest : findMarker? admits ((a + 1).offset d) bs =
        (findMarker? admits (a + 1) bs).map fun b => b.offset d := by
      apply ih
      intro n hn
      have hbehind := hadmits (n + 1) (Nat.succ_lt_succ hn)
      rw [Address.add_add, Nat.add_comm 1 n]
      exact hbehind
    rw [findMarker?, findMarker?, hhere, Address.offset_add, hrest]
    split
    · rfl
    · rfl

end Sweep

/-! ## Placed code -/

namespace Code

/-- The same bytes, `d` places farther up, without going around the address space. -/
structure IsMoved (d : Int) (c c' : Code) : Prop where
  base : (c'.base.toNat : Int) = c.base.toNat + d
  bytes : c'.bytes = c.bytes

namespace IsMoved

variable {d : Int} {c c' : Code} {a : Address}

theorem symm (h : IsMoved d c c') : IsMoved (-d) c' c := by
  refine ⟨?_, h.bytes.symm⟩
  have hbase := h.base
  omega

/-- No address of the code, nor the one behind it, goes around. -/
theorem toNat_offset (h : IsMoved d c c') (hlo : c.base ≤ a) (hhi : a ≤ c.stop) :
    ((a.offset d).toNat : Int) = a.toNat + d := by
  have hbase := h.base
  have hfits := c'.fits
  have hmod := Address.toNat_offset a d
  rw [h.bytes] at hfits
  rw [Address.le_iff] at hlo hhi
  rw [toNat_stop] at hhi
  omega

theorem toNat_offset_of_contains (h : IsMoved d c c') (hin : c.contains a = true) :
    ((a.offset d).toNat : Int) = a.toNat + d := by
  rcases (c.contains_iff a).1 hin with ⟨hlo, hhi⟩
  refine h.toNat_offset hlo ?_
  rw [Address.le_iff, toNat_stop]
  exact Nat.le_of_lt hhi

theorem base_eq (h : IsMoved d c c') : c'.base = c.base.offset d := by
  apply Address.toNat_inj
  have hbase := h.base
  have hstart := h.toNat_offset (Nat.le_refl _) c.base_le_stop
  omega

theorem stop_eq (h : IsMoved d c c') : c'.stop = c.stop.offset d := by
  rw [stop, stop, h.base_eq, h.bytes, Address.offset_add]

theorem contains_of_contains (h : IsMoved d c c') (hin : c.contains a = true) :
    c'.contains (a.offset d) = true := by
  have hbounds := (c.contains_iff a).1 hin
  have ha := h.toNat_offset_of_contains hin
  have hbase := h.base
  rw [contains_iff, h.bytes]
  omega

/-- Outside the code an address may go around, but not into the moved code. -/
theorem contains_offset (h : IsMoved d c c') (a : Address) :
    c'.contains (a.offset d) = c.contains a := by
  rw [Bool.eq_iff_iff]
  constructor
  · intro hin
    have hback := h.symm.contains_of_contains hin
    rw [Address.offset_neg] at hback
    exact hback
  · exact h.contains_of_contains

theorem sub_base (h : IsMoved d c c') (hin : c.contains a = true) :
    (a.offset d).toNat - c'.base.toNat = a.toNat - c.base.toNat := by
  have ha := h.toNat_offset_of_contains hin
  have hbase := h.base
  omega

/-- What is left from an address on moves along with it. -/
theorem tailFrom (h : IsMoved d c c') (a : Address) :
    IsMoved d (c.tailFrom a) (c'.tailFrom (a.offset d)) := by
  -- Outside the code both tails are empty, and lie at the two ends.
  have hsame := h.contains_offset a
  by_cases hin : c.contains a = true
  · rw [Code.tailFrom, Code.tailFrom, dif_pos hin, dif_pos (hsame.trans hin)]
    refine ⟨h.toNat_offset_of_contains hin, ?_⟩
    show c'.bytes.drop _ = c.bytes.drop _
    rw [h.sub_base hin, h.bytes]
  · rw [Code.tailFrom, Code.tailFrom, dif_neg hin, dif_neg (hsame ▸ hin), h.stop_eq]
    exact ⟨h.toNat_offset c.base_le_stop (Nat.le_refl _), rfl⟩

theorem decode_of_contains (h : IsMoved d c c') (hin : c.contains a = true) :
    c'.decode (a.offset d) = ((c.decode a).map (Insn.moved d)).mapError (DecodeError.moved d) := by
  rw [Code.decode_of_contains hin, Code.decode_of_contains (h.contains_of_contains hin),
    h.sub_base hin, h.bytes, Insn.decodeBytes_offset]

theorem decode_of_ok (h : IsMoved d c c') {i : Insn} (hi : c.decode a = .ok i) :
    c'.decode (a.offset d) = .ok (i.moved d) := by
  rw [h.decode_of_contains (contains_of_decode hi), hi]
  rfl

/-- An address outside the code can be nothing to decode in one place and out of bounds in the
other, but in both it is an error. -/
theorem decode_of_error (h : IsMoved d c c') {e : DecodeError} (he : c.decode a = .error e) :
    ∃ e', c'.decode (a.offset d) = .error e' := by
  cases hdecode : c'.decode (a.offset d) with
  | error e' => exact ⟨e', rfl⟩
  | ok i =>
    have hback := h.symm.decode_of_ok hdecode
    rw [Address.offset_neg, he] at hback
    cases hback

theorem sweep_eq (h : IsMoved d c c') (p : Resync) :
    c'.sweep p = (c.sweep p).map (Sweep.Step.moved d) := by
  rw [sweep, sweep, start, start, h.base_eq, h.bytes, Sweep.steps_offset]

theorem instructions_eq (h : IsMoved d c c') (p : Resync) :
    c'.instructions p = (c.instructions p).map (Insn.moved d) := by
  rw [instructions, instructions, h.sweep_eq, List.filterMap_map, List.map_filterMap]
  congr 1
  funext s
  exact s.insn?_moved d

end IsMoved

end Code

/-! ## Searches -/

/-- The distance is a multiple of what the addresses of function starts have to be multiples of. -/
def ScanOptions.AlignsWith (o : ScanOptions) (d : Int) : Prop :=
  ∀ n ∈ o.functionAlignment, n ≤ 1 ∨ (n : Int) ∣ d

theorem ScanOptions.admits_offset {o : ScanOptions} {a : Address} {d : Int} (h : o.AlignsWith d)
    (ha : ((a.offset d).toNat : Int) = a.toNat + d) : o.admits (a.offset d) = o.admits a := by
  unfold admits
  cases hn : o.functionAlignment with
  | none => rfl
  | some n => exact Address.isAligned_offset (h n hn) ha

namespace Code.IsMoved

variable {d : Int} {c c' : Code}

theorem findFirst?_eq (h : IsMoved d c c') (p : Resync) {wanted wanted' : Insn → Bool}
    (hwanted : ∀ i, wanted' (i.moved d) = wanted i) :
    c'.findFirst? p wanted' = (c.findFirst? p wanted).map (Insn.moved d) := by
  have hcomp : wanted' ∘ Insn.moved d = wanted := funext hwanted
  rw [Code.findFirst?_eq, Code.findFirst?_eq, h.instructions_eq, List.find?_map, hcomp]

theorem findPrologue?_eq (h : IsMoved d c c') {o : ScanOptions} (halign : o.AlignsWith d)
    (mode : PrologueMode) :
    c'.findPrologue? o mode = (c.findPrologue? o mode).map fun a => a.offset d := by
  cases mode with
  | landingPad =>
    show Sweep.findMarker? o.admits c'.base c'.bytes =
      (Sweep.findMarker? o.admits c.base c.bytes).map fun a => a.offset d
    rw [h.base_eq, h.bytes]
    apply Sweep.findMarker?_offset
    intro n hn
    -- Alignment is asked of an address where a byte lies, and none of these wraps.
    have hfits := c.fits
    have hplace : (c.base + n).toNat = c.base.toNat + n := Address.toNat_add_of_lt (by omega)
    have hin : c.contains (c.base + n) = true := (c.contains_iff _).2 (by omega)
    exact ScanOptions.admits_offset halign (h.toNat_offset_of_contains hin)
  | padding =>
    show c'.findAfterPadding? o = (c.findAfterPadding? o).map fun a => a.offset d
    have hstarts : Sweep.starts o.admits false (c'.sweep o.resync) =
        (Sweep.starts o.admits false (c.sweep o.resync)).map fun a => a.offset d := by
      rw [h.sweep_eq]
      apply Sweep.starts_moved
      intro s hs
      rw [c.sweep_eq_linearSweep] at hs
      rcases mem_linearSweep_bounds hs with ⟨hlo, hup, hstop⟩
      refine ScanOptions.admits_offset halign (h.toNat_offset hlo ?_)
      rw [Address.le_iff]
      omega
    rw [Code.findAfterPadding?_eq, Code.findAfterPadding?_eq, hstarts, List.head?_map]

end Code.IsMoved

/-! ## Queries -/

/-- The hit `d` places farther up. -/
def Hit.moved (d : Int) (h : Hit) : Hit :=
  { h with
    address := h.address.offset d
    target := h.target.map fun t => t.offset d }

namespace Query

/-- The query for what lies `d` places farther up; only a destination says where that is. -/
def moved (d : Int) : Query → Query
  | .calls target => .calls (target.map fun t => t.offset d)
  | .leas displacement => .leas displacement
  | .prologues mode => .prologues mode

/-- If function starts are asked for, the distance is a multiple of their alignment. -/
def MovesWith (q : Query) (o : ScanOptions) (d : Int) : Prop :=
  ∀ mode, q = .prologues mode → o.AlignsWith d

variable {q : Query} {o : ScanOptions} {segment : Nat} {d : Int} {c c' rest rest' : Code}

/-! ## One round -/

theorem ofInsn_moved (kind : HitKind) (i : Insn) :
    Hit.ofInsn kind segment (i.moved d) = (Hit.ofInsn kind segment i).moved d := by
  simp [Hit.ofInsn, Hit.moved, Insn.callTarget?_moved]

theorem firstHit?_moved (h : Code.IsMoved d c c') (hq : q.MovesWith o d) :
    (q.moved d).firstHit? o (fun _ => segment) c' =
      (q.firstHit? o (fun _ => segment) c).map (Hit.moved d) := by
  cases q with
  | calls target =>
    have hfind : c'.findCall? o (target.map fun t => t.offset d) =
        (c.findCall? o target).map (Insn.moved d) :=
      h.findFirst?_eq o.resync (Insn.isCallTo_moved d target)
    simp only [moved, firstHit?, hfind, Option.map_map, Function.comp_def, ofInsn_moved]
  | leas displacement =>
    have hfind : c'.findLea? o displacement = (c.findLea? o displacement).map (Insn.moved d) :=
      h.findFirst?_eq o.resync (Insn.isLeaWith_moved d displacement)
    simp only [moved, firstHit?, hfind, Option.map_map, Function.comp_def, ofInsn_moved]
  | prologues mode =>
    have hfind := h.findPrologue?_eq (hq mode rfl) mode
    simp only [moved, firstHit?, hfind, Option.map_map, Function.comp_def]
    rfl

theorem resumeAtStart_moved (h : Code.IsMoved d c c') (mode : PrologueMode) (a : Address) :
    resumeAtStart c' mode (a.offset d) = (resumeAtStart c mode a).offset d := by
  cases mode with
  | landingPad => exact Address.offset_add a d landingPadBytes.length
  | padding =>
    cases hdecode : c.decode a with
    | ok i =>
      have hmoved := h.decode_of_ok hdecode
      simp only [resumeAtStart, hdecode, hmoved, Insn.stop_moved]
    | error e =>
      rcases h.decode_of_error hdecode with ⟨e', hmoved⟩
      simp only [resumeAtStart, hdecode, hmoved, Address.offset_add]

theorem resumeAt_moved (h : Code.IsMoved d c c') (k : Hit) :
    (q.moved d).resumeAt c' (k.moved d) = (q.resumeAt c k).offset d := by
  cases q with
  | calls target => exact Address.offset_add k.address d k.length
  | leas displacement => exact Address.offset_add k.address d k.length
  | prologues mode => exact resumeAtStart_moved h mode k.address

/-! ## All rounds -/

/-- Both searches are in step: what is left to one is what is left to the other, moved. -/
theorem hitsFrom_moved (h : Code.IsMoved d c c') (hq : q.MovesWith o d) {rounds : Nat}
    (hrest : Code.IsMoved d rest rest') :
    (q.moved d).hitsFrom o segment c' rounds rest' =
      (q.hitsFrom o segment c rounds rest).map (Hit.moved d) := by
  induction rounds generalizing rest rest' with
  | zero => rfl
  | succ n ih =>
    have hround : (q.moved d).firstHit? o (fun _ => segment) rest' =
        (q.firstHit? o (fun _ => segment) rest).map (Hit.moved d) :=
      firstHit?_moved hrest hq
    cases hfirst : q.firstHit? o (fun _ => segment) rest with
    | none =>
      rw [hfirst, Option.map_none] at hround
      rw [hitsFrom_of_none hround, hitsFrom_of_none hfirst, List.map_nil]
    | some k =>
      rw [hfirst, Option.map_some] at hround
      have hnext : Code.IsMoved d (c.tailFrom (q.resumeAt c k))
          (c'.tailFrom ((q.moved d).resumeAt c' (k.moved d))) := by
        rw [resumeAt_moved h]
        exact h.tailFrom (q.resumeAt c k)
      rw [hitsFrom_of_some hround, hitsFrom_of_some hfirst, List.map_cons, ih hnext]

theorem hitsIn_moved (h : Code.IsMoved d c c') (hq : q.MovesWith o d) :
    (q.moved d).hitsIn o segment c' = (q.hitsIn o segment c).map (Hit.moved d) := by
  have hlength : c'.length = c.length := congrArg List.length h.bytes
  rw [hitsIn, hitsIn, hlength]
  exact hitsFrom_moved h hq h

end Query

end CodeSurvey
