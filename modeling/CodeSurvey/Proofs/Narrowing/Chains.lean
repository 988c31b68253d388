import CodeSurvey.Proofs.Decode.Bounds
import CodeSurvey.Proofs.Image.SegmentCode

/-!
# Chains of windows and tails

Code is narrowed step by step, by windows and tails at any addresses. Whatever the steps are, the
end of what is left does not wrap, and every byte of it is the one that the first code has there. A
chain of windows leaves what lies in all of them. No step takes a difference below zero or an index
outside of the bytes: with a check at each of them, the outcome is the same.

* `Narrowing`, `Code.narrowAll` : the steps, and the code that a chain of them leaves;
* `Code.exists_narrowAll_iff_narrows` : such chains are all there is to narrowing;
* `Code.read?_of_narrowAll` : bytes that are left lie where they did, inside all windows;
* `Code.read?_narrowAll_windows_iff` : windows leave all such bytes;
* `Stretch`, `Stretch.narrowAll` : the same steps on bytes whose end nobody has looked at, with a
  check of every difference and every index;
* `Code.stretch_narrowAll` : these checks find nothing;
* `Code.chain_of_place` : all of it, for every chain.
-/

namespace CodeSurvey

/-- A step that narrows code. -/
inductive Narrowing
  | window (start stop : Address)
  | tail (a : Address)
  deriving DecidableEq, Repr

/-- Where a step may leave bytes. -/
def Narrowing.Admits : Narrowing → Address → Prop
  | .window start stop, a => start ≤ a ∧ a < stop
  | .tail b, a => b ≤ a

namespace Code

variable {c d : Code} {a start stop : Address} {x : UInt8} {step : Narrowing}
  {steps : List Narrowing}

/-- The code that one step leaves. -/
def narrow (c : Code) : Narrowing → Except RangeError Code
  | .window start stop => c.subrange start stop
  | .tail a => .ok (c.tailFrom a)

/-- The code that a chain of steps leaves, each taken on what the one in front of it has left. -/
def narrowAll (c : Code) (steps : List Narrowing) : Except RangeError Code :=
  steps.foldlM narrow c

theorem narrowAll_cons_eq_ok_iff :
    c.narrowAll (step :: steps) = .ok d ↔
      ∃ e, c.narrow step = .ok e ∧ e.narrowAll steps = .ok d := by
  rw [narrowAll, List.foldlM_cons, Except.bind_eq_ok_iff]
  exact Iff.rfl

/-- Chains of steps narrow code in all the ways in which it can be narrowed, and in no other. -/
theorem exists_narrowAll_iff_narrows : (∃ steps, c.narrowAll steps = .ok d) ↔ c.Narrows d := by
  constructor
  · rintro ⟨steps, h⟩
    -- What has been done in front of the remaining steps is a chain itself.
    suffices hchain : ∀ e, c.Narrows e → e.narrowAll steps = .ok d → c.Narrows d from
      hchain c (.refl c) h
    clear h
    induction steps with
    | nil =>
      intro e he h
      cases h
      exact he
    | cons step steps ih =>
      intro e he h
      rcases narrowAll_cons_eq_ok_iff.1 h with ⟨f, hf, hrest⟩
      refine ih f ?_ hrest
      cases step with
      | window start stop => exact he.subrange hf
      | tail a =>
        cases hf
        exact he.tailFrom a
  · have hlast {e f : Code} {steps : List Narrowing} (step : Narrowing)
        (h : c.narrowAll steps = .ok e) (hf : e.narrow step = .ok f) :
        c.narrowAll (steps ++ [step]) = .ok f := by
      rw [narrowAll] at h ⊢
      rw [List.foldlM_append, h]
      exact narrowAll_cons_eq_ok_iff.2 ⟨f, hf, rfl⟩
    intro h
    induction h with
    | refl => exact ⟨[], rfl⟩
    | subrange _ hwindow ih =>
      rcases ih with ⟨steps, hsteps⟩
      exact ⟨_, hlast (.window _ _) hsteps hwindow⟩
    | tailFrom _ a ih =>
      rcases ih with ⟨steps, hsteps⟩
      exact ⟨_, hlast (.tail a) hsteps rfl⟩

/-! ## Refused windows -/

/-- A window is refused if its end lies below its start, and for no other reason. -/
theorem exists_subrange_error_iff :
    (∃ e, c.subrange start stop = .error e) ↔ stop < start := by
  constructor
  · rintro ⟨e, hrefused⟩
    apply Nat.lt_of_not_le
    intro hordered
    rcases exists_subrange c hordered with ⟨d, hd⟩
    rw [hd] at hrefused
    cases hrefused
  · intro hinverted
    exact ⟨.inverted start stop, if_pos hinverted⟩

theorem exists_narrow_iff :
    (∃ d, c.narrow step = .ok d) ↔ ∀ start stop, step = .window start stop → start ≤ stop := by
  cases step with
  | window start stop =>
    constructor
    · rintro ⟨d, hd⟩ _ _ ⟨⟩
      apply Nat.le_of_not_lt
      intro hinverted
      rcases (exists_subrange_error_iff (c := c)).2 hinverted with ⟨e, he⟩
      rw [narrow, he] at hd
      cases hd
    · intro hordered
      exact exists_subrange c (hordered start stop rfl)
  | tail b => exact iff_of_true ⟨c.tailFrom b, rfl⟩ (by rintro _ _ ⟨⟩)

/-- A chain succeeds if the ends of all its windows are in order. -/
theorem exists_narrowAll_iff :
    (∃ d, c.narrowAll steps = .ok d) ↔
      ∀ start stop, .window start stop ∈ steps → start ≤ stop := by
  induction steps generalizing c with
  | nil => exact iff_of_true ⟨c, rfl⟩ (by simp)
  | cons step steps ih =>
    constructor
    · rintro ⟨d, hd⟩ start stop hmem
      rcases narrowAll_cons_eq_ok_iff.1 hd with ⟨e, he, hrest⟩
      rcases List.mem_cons.1 hmem with hfirst | hbehind
      · exact exists_narrow_iff.1 ⟨e, he⟩ start stop hfirst.symm
      · exact ih.1 ⟨d, hrest⟩ start stop hbehind
    · intro hordered
      have hfirst : ∀ start stop, step = .window start stop → start ≤ stop := by
        rintro start stop rfl
        exact hordered start stop List.mem_cons_self
      rcases exists_narrow_iff.2 hfirst with ⟨e, he⟩
      rcases ih.2 fun start stop hmem => hordered start stop (List.mem_cons_of_mem _ hmem) with
        ⟨d, hd⟩
      exact ⟨d, narrowAll_cons_eq_ok_iff.2 ⟨e, he, hd⟩⟩

/-! ## Bytes that are left -/

theorem read?_eq_some_iff : c.read? a = some x ↔ c.Holds a [x] := by
  rw [holds_iff_bytesFrom? (List.cons_ne_nil x []), read?, Option.bind_eq_some_iff]
  constructor
  · rintro ⟨bs, hbs, hhead⟩
    rcases List.head?_eq_some_iff.1 hhead with ⟨rest, rfl⟩
    exact ⟨rest, hbs⟩
  · rintro ⟨rest, hbs⟩
    exact ⟨_, hbs, rfl⟩

theorem read?_window_iff (h : c.narrow (.window start stop) = .ok d) :
    d.read? a = some x ↔ c.read? a = some x ∧ start ≤ a ∧ a < stop := by
  rw [read?_eq_some_iff, read?_eq_some_iff]
  exact holds_subrange_iff h (List.cons_ne_nil x [])

/-- A step leaves bytes where they were, and only where it may. -/
theorem read?_of_narrow (h : c.narrow step = .ok d) (hd : d.read? a = some x) :
    c.read? a = some x ∧ step.Admits a := by
  cases step with
  | window start stop => exact (read?_window_iff h).1 hd
  | tail b =>
    cases h
    rw [read?_eq_some_iff] at hd ⊢
    rcases (holds_tailFrom_iff (List.cons_ne_nil x [])).1 hd with ⟨hwhole, _, hlow⟩
    exact ⟨hwhole, hlow⟩

theorem read?_of_narrowAll (h : c.narrowAll steps = .ok d) (hd : d.read? a = some x) :
    c.read? a = some x ∧ ∀ step ∈ steps, step.Admits a := by
  induction steps generalizing c with
  | nil =>
    cases h
    exact ⟨hd, by simp⟩
  | cons step steps ih =>
    rcases narrowAll_cons_eq_ok_iff.1 h with ⟨e, he, hrest⟩
    rcases ih hrest with ⟨hread, hbehind⟩
    rcases read?_of_narrow he hread with ⟨hwhole, hfirst⟩
    exact ⟨hwhole, List.forall_mem_cons.2 ⟨hfirst, hbehind⟩⟩

/-- A chain without tails leaves everything that lies in all of its windows. -/
theorem read?_narrowAll_windows_iff (h : c.narrowAll steps = .ok d)
    (hwindows : ∀ b, .tail b ∉ steps) :
    d.read? a = some x ↔
      c.read? a = some x ∧ ∀ start stop, .window start stop ∈ steps → start ≤ a ∧ a < stop := by
  constructor
  · intro hd
    rcases read?_of_narrowAll h hd with ⟨hwhole, hadmits⟩
    exact ⟨hwhole, fun start stop hmem => hadmits _ hmem⟩
  · rintro ⟨hc, hin⟩
    induction steps generalizing c with
    | nil =>
      cases h
      exact hc
    | cons step steps ih =>
      rcases narrowAll_cons_eq_ok_iff.1 h with ⟨e, he, hrest⟩
      cases step with
      | tail b => exact absurd List.mem_cons_self (hwindows b)
      | window start stop =>
        have hkept : e.read? a = some x :=
          (read?_window_iff he).2 ⟨hc, hin start stop List.mem_cons_self⟩
        exact ih hrest (fun b hb => hwindows b (List.mem_cons_of_mem _ hb)) hkept
          fun start stop hmem => hin start stop (List.mem_cons_of_mem _ hmem)

end Code

/-! ## Every difference and every index with a check -/

/-- Bytes from an address on, about whose end nothing is known. -/
structure Stretch where
  base : Address
  bytes : List UInt8
  deriving DecidableEq, Repr

namespace Stretch

/-- Why there is nothing: a window is refused, or else the step itself is at fault. -/
inductive Fault
  | refused (e : RangeError)
  /-- A difference below zero. -/
  | underflow
  /-- An index in front of the one before, or behind the last byte. -/
  | outOfBounds
  deriving DecidableEq, Repr

/-- The address behind the last byte, around the end of the address space if it has to be. -/
def stop (s : Stretch) : Address :=
  s.base + s.bytes.length

def difference (a b : Address) : Except Fault Nat :=
  match a.distanceFrom? b with
  | some n => .ok n
  | none => .error .underflow

def slice (bytes : List UInt8) (start stop : Nat) : Except Fault (List UInt8) :=
  match Image.slice? bytes start stop with
  | some part => .ok part
  | none => .error .outOfBounds

/-- The index of an address between the two ends. -/
def offsetOf? (s : Stretch) (a : Address) : Option Nat :=
  if a.isWithin s.base s.stop then a.distanceFrom? s.base else none

def read (s : Stretch) (a : Address) : Except Fault (Option UInt8) :=
  match s.offsetOf? a with
  | some n => (slice s.bytes n s.bytes.length).map List.head?
  | none => .ok none

def narrow (s : Stretch) : Narrowing → Except Fault Stretch
  | .window start stop =>
    if stop < start then .error (.refused (.inverted start stop))
    else
      let lo := max start s.base
      let hi := min stop s.stop
      if lo < hi then do
        let front ← difference lo s.base
        let back ← difference hi s.base
        let bytes ← slice s.bytes front back
        return ⟨lo, bytes⟩
      else .ok ⟨lo, []⟩
  | .tail a =>
    match s.offsetOf? a with
    | some n => (slice s.bytes n s.bytes.length).map fun bytes => ⟨a, bytes⟩
    | none => .ok ⟨s.stop, []⟩

def narrowAll (s : Stretch) (steps : List Narrowing) : Except Fault Stretch :=
  steps.foldlM narrow s

theorem difference_of_le {a b : Address} (h : b ≤ a) :
    difference a b = .ok (a.toNat - b.toNat) := by
  rw [difference, Address.distanceFrom?, if_pos h]

theorem slice_of_le {bytes : List UInt8} {start stop : Nat} (horder : start ≤ stop)
    (hin : stop ≤ bytes.length) :
    slice bytes start stop = .ok ((bytes.drop start).take (stop - start)) := by
  rw [slice, Image.slice?_eq_some_iff.2 ⟨horder, hin, rfl⟩]

end Stretch

namespace Code

open Stretch

variable {c d : Code} {a : Address}

/-- Code without the bound on its end. -/
def stretch (c : Code) : Stretch :=
  ⟨c.base, c.bytes⟩

@[simp] theorem stretch_base (c : Code) : c.stretch.base = c.base := rfl

@[simp] theorem stretch_bytes (c : Code) : c.stretch.bytes = c.bytes := rfl

@[simp] theorem stretch_stop (c : Code) : c.stretch.stop = c.stop := rfl

theorem stretch_offsetOf?_of_contains (h : c.contains a = true) :
    c.stretch.offsetOf? a = some (a.toNat - c.base.toNat) := by
  have hlow : c.base ≤ a := ((c.contains_iff a).1 h).1
  have hin : a.isWithin c.stretch.base c.stretch.stop = true := h
  rw [Stretch.offsetOf?, if_pos hin]
  exact if_pos hlow

theorem stretch_offsetOf?_of_not_contains (h : c.contains a = false) :
    c.stretch.offsetOf? a = none := by
  have hout : a.isWithin c.stretch.base c.stretch.stop = false := h
  rw [Stretch.offsetOf?, hout]
  rfl

/-- From an index of the code on, there are bytes up to the last one. -/
theorem slice_of_contains (h : c.contains a = true) :
    slice c.bytes (a.toNat - c.base.toNat) c.bytes.length =
      .ok (c.bytes.drop (a.toNat - c.base.toNat)) := by
  have hin := (c.contains_iff a).1 h
  rw [slice_of_le (by omega) (Nat.le_refl _), ← List.length_drop, List.take_length]

theorem stretch_read (c : Code) (a : Address) : c.stretch.read a = .ok (c.read? a) := by
  cases hin : c.contains a with
  | true =>
    rw [Stretch.read, stretch_offsetOf?_of_contains hin, read?, bytesFrom?_of_contains hin]
    simp only [stretch_bytes, slice_of_contains hin, Except.map, Option.bind_some]
  | false =>
    rw [Stretch.read, stretch_offsetOf?_of_not_contains hin, read?, bytesFrom?_of_not_contains hin]
    rfl

theorem stretch_window (c : Code) (start stop : Address) :
    c.stretch.narrow (.window start stop) =
      ((c.subrange start stop).map stretch).mapError .refused := by
  rw [Stretch.narrow]
  by_cases hinverted : stop < start
  · rw [if_pos hinverted, subrange, if_pos hinverted]
    rfl
  · rcases exists_subrange c (Nat.le_of_not_lt hinverted) with ⟨d, hd⟩
    rcases base_bytes_subrange hd with ⟨hbase, hbytes⟩
    have hlo : max start c.base = d.base :=
      Address.toNat_inj ((Address.toNat_max start c.base).trans hbase.symm)
    have hhi : (min stop c.stop).toNat = min stop.toNat c.stop.toNat :=
      Address.toNat_min stop c.stop
    have hend := c.toNat_stop
    rw [if_neg hinverted, hd]
    simp only [stretch_base, stretch_bytes, stretch_stop, hlo]
    split
    · next hlt =>
      -- Both ends of the window lie in the code, so neither difference goes below zero.
      rw [Address.lt_iff, hhi] at hlt
      have hfront : difference d.base c.base = .ok (d.base.toNat - c.base.toNat) :=
        difference_of_le ((Address.le_iff _ _).2 (by omega))
      have hback : difference (min stop c.stop) c.base =
          .ok ((min stop c.stop).toNat - c.base.toNat) :=
        difference_of_le ((Address.le_iff _ _).2 (by omega))
      have hslice : slice c.bytes (d.base.toNat - c.base.toNat)
          ((min stop c.stop).toNat - c.base.toNat) = .ok d.bytes := by
        have hlength : (min stop c.stop).toNat - c.base.toNat - (d.base.toNat - c.base.toNat) =
            min stop.toNat c.stop.toNat - d.base.toNat := by
          omega
        rw [slice_of_le (by omega) (by omega), hbytes, hlength]
      rw [hfront, hback]
      simp only [bind, Except.bind, hslice]
      rfl
    · next hge =>
      have hnone : d.bytes = [] := by
        rw [Address.lt_iff, hhi] at hge
        rw [hbytes, Nat.sub_eq_zero_of_le (Nat.le_of_not_lt hge), List.take_zero]
      rw [← hnone]
      rfl

theorem stretch_tail (c : Code) (a : Address) :
    c.stretch.narrow (.tail a) = .ok (c.tailFrom a).stretch := by
  rw [Stretch.narrow]
  cases hin : c.contains a with
  | true =>
    rcases base_bytes_tailFrom hin with ⟨hbase, hbytes⟩
    have hleft : (c.tailFrom a).stretch = ⟨a, c.bytes.drop (a.toNat - c.base.toNat)⟩ := by
      rw [stretch, hbase, hbytes]
    rw [stretch_offsetOf?_of_contains hin, hleft]
    simp only [stretch_bytes, slice_of_contains hin, Except.map]
  | false =>
    have hout : ¬c.contains a = true := by
      rw [hin]
      exact Bool.false_ne_true
    rw [stretch_offsetOf?_of_not_contains hin, tailFrom, dif_neg hout]
    rfl

/-- A step with a check of every difference and every index leaves what the step leaves, and is
refused where that is. -/
theorem stretch_narrow (c : Code) (step : Narrowing) :
    c.stretch.narrow step = ((c.narrow step).map stretch).mapError .refused := by
  cases step with
  | window start stop => exact stretch_window c start stop
  | tail a => exact stretch_tail c a

theorem stretch_narrowAll (c : Code) (steps : List Narrowing) :
    c.stretch.narrowAll steps = ((c.narrowAll steps).map stretch).mapError .refused := by
  induction steps generalizing c with
  | nil => rfl
  | cons step steps ih =>
    rw [Stretch.narrowAll, narrowAll, List.foldlM_cons, List.foldlM_cons, stretch_narrow]
    cases c.narrow step with
    | error e => rfl
    | ok d => exact ih d

/-! ## Every chain -/

/-- What is known of the code `d` that a chain of steps leaves of the code `c`. -/
structure LeftBy (steps : List Narrowing) (c d : Code) : Prop where
  ends : d.base.toNat + d.length ≤ 2 ^ 64 - 1
  stop : d.stop.toNat = d.base.toNat + d.length
  bytes : ∀ a x, d.read? a = some x → c.read? a = some x
  windows : (∀ b, .tail b ∉ steps) → ∀ a x, d.read? a = some x ↔
    c.read? a = some x ∧ ∀ start stop, .window start stop ∈ steps → start ≤ a ∧ a < stop
  refuses : ∀ start stop, (∃ e, d.subrange start stop = .error e) ↔ stop < start
  reads : ∀ a, d.stretch.read a = .ok (d.read? a)

theorem leftBy_of_narrowAll {steps : List Narrowing} (h : c.narrowAll steps = .ok d) :
    LeftBy steps c d where
  ends := by
    have hfits : d.base.toNat + d.length < 2 ^ 64 := d.fits
    omega
  stop := d.toNat_stop
  bytes := fun _ _ hd => (read?_of_narrowAll h hd).1
  windows := fun hwindows _ _ => read?_narrowAll_windows_iff h hwindows
  refuses := fun _ _ => exists_subrange_error_iff
  reads := d.stretch_read

/-- A chain of windows and tails of placed bytes leaves the same if every difference and every index
on the way is checked. It fails only at a window whose end lies below its start. The end of the code
does not wrap anywhere on the way; the bytes are those that were placed, at the same addresses, and
after windows alone they are all that lie in every window. Narrowed code is what some such chain
leaves. -/
theorem chain_of_place {base : Address} {bytes : List UInt8} (hplace : place base bytes = .ok c)
    (steps : List Narrowing) :
    (⟨base, bytes⟩ : Stretch).narrowAll steps =
        ((c.narrowAll steps).map stretch).mapError .refused ∧
      ((∃ d, c.narrowAll steps = .ok d) ↔
        ∀ start stop, .window start stop ∈ steps → start ≤ stop) ∧
      (∀ front d, front <+: steps → c.narrowAll front = .ok d → LeftBy front c d) ∧
      ∀ d, c.Narrows d ↔ ∃ chain, c.narrowAll chain = .ok d := by
  rcases eq_of_place hplace with ⟨rfl, rfl⟩
  exact ⟨c.stretch_narrowAll steps, exists_narrowAll_iff, fun _ _ _ => leftBy_of_narrowAll,
    fun _ => exists_narrowAll_iff_narrows.symm⟩

/-- The start and the end of a function, and filler. -/
def framedReturn : Code :=
  ⟨.ofNat 0x1000, [0x55, 0x48, 0x89, 0xe5, 0x90, 0x90, 0xc3, 0xcc], by decide⟩

/-- Two windows that reach past the code on one side each, and then one that lies behind it. -/
def windowsPast : List Narrowing :=
  [.window (.ofNat 0xff0) (.ofNat 0x1006), .window (.ofNat 0x1002) (.ofNat 0xffffffffffffffff),
    .window (.ofNat 0x3000) (.ofNat 0x4000)]

/-- The first two windows leave four bytes. The third leaves none, and they are placed where nothing
ever was; a tail of these is as empty. -/
theorem chain_of_place_windowsPast :
    place (.ofNat 0x1000) framedReturn.bytes = .ok framedReturn ∧
      (⟨.ofNat 0x1000, framedReturn.bytes⟩ : Stretch).narrowAll
          (windowsPast ++ [.tail (.ofNat 0x1003)]) = .ok ⟨.ofNat 0x3000, []⟩ ∧
      ∃ d, framedReturn.narrowAll (windowsPast.take 2) = .ok d ∧
        LeftBy (windowsPast.take 2) framedReturn d ∧ framedReturn.Narrows d ∧
        d.base = .ofNat 0x1002 ∧ d.bytes = [0x89, 0xe5, 0x90, 0x90] := by
  have hplace : place (.ofNat 0x1000) framedReturn.bytes = .ok framedReturn := rfl
  rcases chain_of_place hplace (windowsPast ++ [.tail (.ofNat 0x1003)]) with
    ⟨hchecked, _, hleft, hnarrows⟩
  have hfront : windowsPast.take 2 <+: windowsPast ++ [.tail (.ofNat 0x1003)] :=
    (List.take_prefix 2 windowsPast).trans (List.prefix_append _ _)
  exact ⟨hplace, hchecked, _, rfl, hleft _ _ hfront rfl, (hnarrows _).2 ⟨windowsPast.take 2, rfl⟩,
    rfl, rfl⟩

end Code

end CodeSurvey
