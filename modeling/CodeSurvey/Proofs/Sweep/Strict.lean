import CodeSurvey.Proofs.Narrowing
import CodeSurvey.Proofs.Sweep.Tiling

/-!
# Strict sweeps

A strict sweep decodes one instruction behind the other and ends where that fails. Which
instructions it shows depends on the bytes that it passes and on how far it may look: in a wider
window with the same start it shows the same and goes on.

* `Code.StrictRun c a is` : the instructions that follow each other from `a` on;
* `Code.StrictRun.unique`, `Code.strictRun_instructions` : they are what a strict sweep meets;
* `Code.StrictRun.subrange` : a narrower window has those that end in it;
* `Code.findFirst?_subrange` : so a search there finds what it finds in the wider one, or nothing;
* `Code.KeepsMatch` : what this says about a match, in the words of the windows;
* `Code.search_subrange_keepsMatch` : the searches for calls and for displacements keep theirs.
-/

namespace CodeSurvey.Code

variable {c d d' : Code} {a start stop stop' : Address} {is : List Insn}

/-! ## Runs -/

/-- The instructions follow each other from the address on, and behind the last one nothing can be
decoded. -/
inductive StrictRun (c : Code) : Address → List Insn → Prop where
  | stuck {a : Address} (fails : ∀ i, c.decode a ≠ .ok i) : StrictRun c a []
  | insn {a : Address} {i : Insn} {is : List Insn} (decode : c.decode a = .ok i)
      (rest : StrictRun c i.stop is) : StrictRun c a (i :: is)

theorem StrictRun.unique {js : List Insn} (h : c.StrictRun a is) (h' : c.StrictRun a js) :
    is = js := by
  induction h generalizing js with
  | stuck fails =>
    cases h' with
    | stuck _ => rfl
    | insn decode _ => exact absurd decode (fails _)
  | insn decode _ ih =>
    cases h' with
    | stuck fails => exact absurd decode (fails _)
    | insn decode' rest' =>
      cases decode.symm.trans decode'
      rw [ih rest']

/-- A run is a tiling that leaves no gaps, and so is a front part of one. -/
theorem StrictRun.exists_tiles_take (h : c.StrictRun a is) (count : Nat) :
    ∃ u, c.Tiles .stop a (is.take count) u := by
  induction h generalizing count with
  | @stuck a _ => exact ⟨a, by simpa using Tiles.done a⟩
  | @insn a i is decode _ ih =>
    cases count with
    | zero => exact ⟨a, .done a⟩
    | succ n =>
      rcases ih n with ⟨u, htiles⟩
      exact ⟨u, .insn decode htiles⟩

theorem StrictRun.exists_tiles (h : c.StrictRun a is) : ∃ u, c.Tiles .stop a is u := by
  have htake := h.exists_tiles_take is.length
  rwa [List.take_length] at htake

theorem strictRun_linearSweep (c : Code) (a : Address) :
    c.StrictRun a ((c.linearSweep .stop a).filterMap Sweep.Step.insn?) := by
  -- The sweep recurses under either policy, and here only the strict one can occur.
  generalize hpolicy : Resync.stop = p
  fun_induction linearSweep c p a with
  | case1 p a hin i hdecode ih => exact .insn hdecode (ih hpolicy)
  | case2 a hin e hdecode =>
    refine .stuck fun i hi => ?_
    rw [hdecode] at hi
    cases hi
  | case3 a hin e hdecode ih => cases hpolicy
  | case4 p a hin => exact .stuck fun i hi => hin (contains_of_decode hi)

theorem strictRun_instructions (c : Code) : c.StrictRun c.start (c.instructions .stop) := by
  rw [instructions_eq_linearInstructions]
  exact c.strictRun_linearSweep c.start

/-- From an address on, the whole code and what is left of it there have the same run. -/
theorem strictRun_tailFrom (h : c.contains a = true) :
    c.StrictRun a ((c.tailFrom a).instructions .stop) := by
  rcases (c.contains_iff a).1 h with ⟨hlow, hhigh⟩
  have hstop : a ≤ c.stop := by
    rw [Address.le_iff, c.toNat_stop]
    exact Nat.le_of_lt hhigh
  -- What is left is swept as the whole is, and the run is the sweep of the whole.
  rw [instructions, (isTail_tailFrom hlow hstop).sweep_eq]
  exact c.strictRun_linearSweep a

/-! ## Two windows with one start -/

section

variable (narrow : c.subrange start stop = .ok d) (wide : c.subrange start stop' = .ok d')
  (hle : stop ≤ stop')

include narrow wide

theorem start_eq_of_subrange : d.start = d'.start := by
  apply Address.toNat_inj
  calc
    d.start.toNat = max start.toNat c.base.toNat := (base_bytes_subrange narrow).1
    _ = d'.start.toNat := (base_bytes_subrange wide).1.symm

include hle

/-- An instruction of the wider window that ends in the narrower one is there as well. -/
theorem decode_subrange_iff_wider {i : Insn} :
    d.decode a = .ok i ↔ d'.decode a = .ok i ∧ i.stop ≤ stop := by
  rw [Address.le_iff] at hle
  -- Both windows have the instructions of the code that end in them, and begin at one address.
  constructor
  · intro hnarrow
    have hstop := (stop_of_decode hnarrow).1
    rcases (decode_subrange_iff narrow).1 hnarrow with ⟨hwhole, hstart, hend⟩
    refine ⟨(decode_subrange_iff wide).2 ⟨hwhole, hstart, by omega⟩, ?_⟩
    rwa [Address.le_iff, hstop]
  · rintro ⟨hwide, hend⟩
    have hstop := (stop_of_decode hwide).1
    rcases (decode_subrange_iff wide).1 hwide with ⟨hwhole, hstart, _⟩
    rw [Address.le_iff, hstop] at hend
    exact (decode_subrange_iff narrow).2 ⟨hwhole, hstart, hend⟩

/-- The narrower window has the instructions of the wider one up to the first that it cuts off. -/
theorem StrictRun.subrange (h : d'.StrictRun a is) :
    d.StrictRun a (is.takeWhile fun i => i.stop ≤ stop) := by
  have hdecode {a : Address} {i : Insn} :
      d.decode a = .ok i ↔ d'.decode a = .ok i ∧ i.stop ≤ stop :=
    decode_subrange_iff_wider narrow wide hle
  induction h with
  | stuck fails => exact .stuck fun i hi => fails i (hdecode.1 hi).1
  | @insn a i is decode _ ih =>
    rw [List.takeWhile_cons]
    by_cases hend : i.stop ≤ stop
    · rw [if_pos (decide_eq_true hend)]
      exact .insn (hdecode.2 ⟨decode, hend⟩) ih
    · -- The wider window has one instruction here, and this one does not end in the narrower.
      rw [if_neg (by simpa using hend)]
      refine .stuck fun j hj => hend ?_
      rcases hdecode.1 hj with ⟨hj', hjend⟩
      cases decode.symm.trans hj'
      exact hjend

theorem instructions_subrange :
    d.instructions .stop = (d'.instructions .stop).takeWhile fun i => i.stop ≤ stop := by
  have hwide := d'.strictRun_instructions
  rw [← start_eq_of_subrange narrow wide] at hwide
  exact d.strictRun_instructions.unique (hwide.subrange narrow wide hle)

end

/-! ## First matches -/

/-- If a property, once lost, stays lost, then the part that has it keeps the first match or has
none. -/
theorem find?_takeWhile {α : Type} {q wanted : α → Bool} {l : List α}
    (h : l.Pairwise fun x y => q y = true → q x = true) :
    (l.takeWhile q).find? wanted = (l.find? wanted).filter q := by
  induction h with
  | nil => rfl
  | @cons x l hfirst _ ih =>
    rw [List.takeWhile_cons]
    cases hq : q x with
    | true =>
      rw [if_pos rfl, List.find?_cons, List.find?_cons]
      cases hwanted : wanted x with
      | true => exact (if_pos hq).symm
      | false => exact ih
    | false =>
      refine Eq.symm (Option.filter_eq_none_iff.2 ?_)
      intro y hy hqy
      -- A match behind `x` would have the property, and so would `x`.
      have hall : q x = true := by
        rcases List.mem_cons.1 (List.mem_of_find?_eq_some hy) with rfl | hmem
        · exact hqy
        · exact hfirst y hmem hqy
      rw [hq] at hall
      cases hall

theorem instructions_pairwise_stop (c : Code) :
    (c.instructions .stop).Pairwise fun i j => i.stop ≤ j.stop := by
  rcases c.strictRun_instructions.exists_tiles with ⟨u, htiles⟩
  refine htiles.pairwise.imp_of_mem ?_
  intro i j hi hj hbehind
  have hstop := (stop_of_decode (htiles.of_mem i hi).1).1
  have hstop' := (stop_of_decode (htiles.of_mem j hj).1).1
  rw [Address.le_iff]
  omega

/-- A strict search of the narrower window finds what that of the wider one finds, if it ends in
the narrower one, and nothing else. -/
theorem findFirst?_subrange (narrow : c.subrange start stop = .ok d)
    (wide : c.subrange start stop' = .ok d') (hle : stop ≤ stop') (wanted : Insn → Bool) :
    d.findFirst? .stop wanted = (d'.findFirst? .stop wanted).filter fun i => i.stop ≤ stop := by
  rw [findFirst?_eq, findFirst?_eq, instructions_subrange narrow wide hle]
  refine find?_takeWhile (d'.instructions_pairwise_stop.imp ?_)
  intro i j hij hj
  have hend : j.stop ≤ stop := of_decide_eq_true hj
  rw [Address.le_iff] at hij hend
  exact decide_eq_true ((Address.le_iff _ _).2 (Nat.le_trans hij hend))

/-- A match in the window from one address to another, and the match when the window is wider. -/
structure KeepsMatch (c : Code) (start stop : Address) (narrow wide : Option Insn) : Prop where
  kept : ∀ i, narrow = some i → wide = some i
  inside : ∀ i, narrow = some i → max start c.start ≤ i.start ∧ i.stop ≤ min stop c.stop
  decoded : ∀ i, narrow = some i → c.decode i.start = .ok i
  found : ∀ i, wide = some i → i.stop ≤ stop → narrow = some i

theorem keepsMatch_findFirst? (narrow : c.subrange start stop = .ok d)
    (wide : c.subrange start stop' = .ok d') (hle : stop ≤ stop') (wanted : Insn → Bool) :
    c.KeepsMatch start stop (d.findFirst? .stop wanted) (d'.findFirst? .stop wanted) := by
  have hfilter := findFirst?_subrange narrow wide hle wanted
  -- Whatever is found was decoded where it lies.
  have hdecode : ∀ i, d.findFirst? .stop wanted = some i → d.decode i.start = .ok i := by
    intro i hi
    rcases d.strictRun_instructions.exists_tiles with ⟨u, htiles⟩
    rw [findFirst?_eq] at hi
    exact (htiles.of_mem i (List.mem_of_find?_eq_some hi)).1
  constructor
  case kept =>
    intro i hi
    rw [hi] at hfilter
    exact (Option.filter_eq_some_iff.1 hfilter.symm).1
  case inside =>
    intro i hi
    rcases stop_of_decode (hdecode i hi) with ⟨hstop, _, _⟩
    rcases (decode_subrange_iff narrow).1 (hdecode i hi) with ⟨hwhole, hstart, hend⟩
    have hlow := ((c.contains_iff i.start).1 (contains_of_decode hwhole)).1
    have hhigh := (stop_of_decode hwhole).2.2
    rw [Address.le_iff, Address.le_iff, Address.toNat_max, Address.toNat_min, hstop]
    exact ⟨Nat.max_le.2 ⟨hstart, hlow⟩, Nat.le_min.2 ⟨hend, hstop ▸ hhigh⟩⟩
  case decoded =>
    intro i hi
    exact ((decode_subrange_iff narrow).1 (hdecode i hi)).1
  case found =>
    intro i hi hend
    rw [hi] at hfilter
    rw [hfilter]
    exact Option.filter_eq_some_iff.2 ⟨rfl, decide_eq_true hend⟩

/-- Both searches for instructions keep their match when a strict window is made wider, and lose it
when it is made narrower only if its end is cut off. -/
theorem search_subrange_keepsMatch (c : Code) (o : ScanOptions) (ho : o.resync = .stop)
    (hstart : start ≤ stop) (hle : stop ≤ stop') :
    ∃ d d', c.subrange start stop = .ok d ∧ c.subrange start stop' = .ok d' ∧
      (∀ target, c.KeepsMatch start stop (d.findCall? o target) (d'.findCall? o target)) ∧
      ∀ displacement,
        c.KeepsMatch start stop (d.findLea? o displacement) (d'.findLea? o displacement) := by
  have hstart' : start ≤ stop' := Nat.le_trans hstart hle
  rcases c.exists_subrange hstart with ⟨d, narrow⟩
  rcases c.exists_subrange hstart' with ⟨d', wide⟩
  refine ⟨d, d', narrow, wide, fun target => ?_, fun displacement => ?_⟩
  · rw [findCall?, findCall?, ho]
    exact keepsMatch_findFirst? narrow wide hle _
  · rw [findLea?, findLea?, ho]
    exact keepsMatch_findFirst? narrow wide hle _

/-- A no-op and two calls. -/
def twoCalls : Code :=
  ⟨.ofNat 0x401000, [0x90, 0xe8, 0x10, 0, 0, 0, 0xe8, 0x20, 0, 0, 0], by decide⟩

/-- The window has the first call and cuts the second off. -/
theorem search_subrange_keepsMatch_twoCalls :
    ∃ d d' i, twoCalls.subrange (.ofNat 0x400000) (.ofNat 0x401008) = .ok d ∧
      twoCalls.subrange (.ofNat 0x400000) (.ofNat 0x500000) = .ok d' ∧
      d.findCall? {} none = some i ∧ d'.findCall? {} none = some i := by
  have hstart : Address.ofNat 0x400000 ≤ .ofNat 0x401008 := by decide
  have hle : Address.ofNat 0x401008 ≤ .ofNat 0x500000 := by decide
  rcases search_subrange_keepsMatch twoCalls {} rfl hstart hle with
    ⟨d, d', narrow, wide, hcalls, _⟩
  cases narrow
  cases wide
  exact ⟨_, _, _, rfl, rfl, rfl, (hcalls none).kept _ rfl⟩

end CodeSurvey.Code
