import CodeSurvey.Proofs.Decode.FrontPart
import CodeSurvey.Proofs.Sweep.FirstMatch
import CodeSurvey.Proofs.Sweep.Linear
import Mathlib.Algebra.Ring.Nat

/-!
# Streams of instructions

Instructions that are laid one behind the other are recovered by a sweep, each as it is alone.

* `Insn.IsWhole bs` : the bytes, placed somewhere on their own, are one instruction;
* `Insn.Laid a pieces insns` : the instructions of some pieces, laid from an address on;
* `Insn.Laid.steps_eq` : a sweep of the pieces meets these instructions and nothing else;
* `Code.scan_of_pieces` : what a visitor is shown, and when it ends the sweep.
-/

namespace CodeSurvey

namespace Insn

/-! ## Pieces -/

/-- The bytes, placed somewhere with nothing behind them, are one instruction. -/
def IsWhole (bs : List UInt8) : Prop :=
  ∃ (c : Code) (i : Insn), c.bytes = bs ∧ c.decode c.base = .ok i ∧ i.length = bs.length

/-- Such bytes are one instruction at every address, whatever follows. -/
theorem IsWhole.exists_decodeBytes {bs : List UInt8} (h : IsWhole bs) (a : Address) :
    ∃ i, decodeBytes a bs = .ok i ∧ i.length = bs.length := by
  rcases h with ⟨c, i, rfl, hdecode, hlength⟩
  have hbytes : decodeBytes c.base c.bytes = .ok i := by
    have hdrop := Code.decodeBytes_of_decode hdecode
    rwa [Nat.sub_self, List.drop_zero] at hdrop
  -- An encoding does not depend on where it lies.
  rcases decodeBytes_eq_ok_iff.1 hbytes with ⟨e, shape, rest, hwf, hsplit, hlen, rfl⟩
  exact ⟨ofEncoding a e, decodeBytes_eq_ok_iff.2 ⟨e, shape, rest, hwf, hsplit, hlen, rfl⟩, hlength⟩

theorem decodeBytes_append_of_ok {a : Address} {bs : List UInt8} {i : Insn}
    (h : decodeBytes a bs = .ok i) (more : List UInt8) : decodeBytes a (bs ++ more) = .ok i := by
  rw [← h]
  apply decodeBytes_append
  intro at_ n htruncated
  rw [h] at htruncated
  cases htruncated

/-- The instructions are those of the pieces, each decoded alone at the end of the one in front. -/
inductive Laid : Address → List (List UInt8) → List Insn → Prop
  | nil (a : Address) : Laid a [] []
  | cons {a : Address} {bs : List UInt8} {i : Insn} {pieces : List (List UInt8)}
      {insns : List Insn} (decode : decodeBytes a bs = .ok i) (whole : i.length = bs.length)
      (rest : Laid (a + bs.length) pieces insns) : Laid a (bs :: pieces) (i :: insns)

theorem exists_laid {pieces : List (List UInt8)} (h : ∀ bs ∈ pieces, IsWhole bs) (a : Address) :
    ∃ insns, Laid a pieces insns := by
  induction pieces generalizing a with
  | nil => exact ⟨[], .nil a⟩
  | cons bs pieces ih =>
    have hfirst : IsWhole bs := h bs List.mem_cons_self
    have hothers : ∀ cs ∈ pieces, IsWhole cs := by
      intro cs hcs
      exact h cs (List.mem_cons_of_mem bs hcs)
    rcases hfirst.exists_decodeBytes a with ⟨i, hdecode, hwhole⟩
    rcases ih hothers (a + bs.length) with ⟨insns, hrest⟩
    exact ⟨i :: insns, .cons hdecode hwhole hrest⟩

namespace Laid

variable {a : Address} {pieces : List (List UInt8)} {insns : List Insn}

theorem length_eq (h : Laid a pieces insns) : insns.length = pieces.length := by
  induction h with
  | nil a => rfl
  | cons _ _ _ ih => simp [ih]

/-- Each instruction is its piece, decoded where the lengths in front of it add up to. -/
theorem decode_getElem (h : Laid a pieces insns) {n : Nat} (hn : n < pieces.length)
    (hi : n < insns.length) :
    decodeBytes (a + ((pieces.take n).map List.length).sum) pieces[n] = .ok insns[n] := by
  induction h generalizing n with
  | nil a => cases hn
  | @cons a bs i pieces insns hdecode hwhole hrest ih =>
    cases n with
    | zero => simpa [Address.add_zero] using hdecode
    | succ n =>
      have hbehind := ih (Nat.lt_of_succ_lt_succ hn) (Nat.lt_of_succ_lt_succ hi)
      rw [Address.add_add] at hbehind
      simpa using hbehind

/-- A sweep lands on every boundary between two pieces. -/
theorem steps_eq (h : Laid a pieces insns) (p : Resync) :
    Sweep.steps p a 0 pieces.flatten = insns.map .decoded := by
  induction h with
  | nil a => rfl
  | @cons a bs i pieces insns hdecode hwhole hrest ih =>
    have hpos : 0 < i.length := (length_of_decodeBytes hdecode).1
    have hmore := decodeBytes_append_of_ok hdecode pieces.flatten
    cases bs with
    | nil => simp [hwhole] at hpos
    | cons b bs =>
      -- The counter takes the sweep from the second byte of the piece to its end.
      have hnext : a + 1 + (i.length - 1) = a + (b :: bs).length := by
        rw [Address.add_add, hwhole]
        congr 1
        simp only [List.length_cons]
        omega
      have hskip : (bs ++ pieces.flatten).drop (i.length - 1) = pieces.flatten := by
        have hlength : i.length - 1 = bs.length := by simp [hwhole]
        rw [hlength, List.drop_left]
      have hfirst : Insn.decodeBytes a (b :: (bs ++ pieces.flatten)) = .ok i := hmore
      calc
        Sweep.steps p a 0 ((b :: bs) :: pieces).flatten =
            .decoded i :: Sweep.steps p (a + 1) (i.length - 1) (bs ++ pieces.flatten) := by
          simp only [List.flatten_cons, List.cons_append, Sweep.steps, hfirst]
        _ = .decoded i :: Sweep.steps p (a + (b :: bs).length) 0 pieces.flatten := by
          rw [Sweep.steps_skip, hnext, hskip]
        _ = .decoded i :: insns.map .decoded := by rw [ih]

end Laid

end Insn

namespace Sweep

/-! ## Visitors -/

/-- What a visitor has gathered when it was shown some instructions, in order. -/
def gathered {σ : Type} (visitor : σ → Insn → σ × Bool) (s : σ) (insns : List Insn) : σ :=
  insns.foldl (fun s i => (visitor s i).1) s

/-- The visitor, shown the instructions in order, accepts none of them. -/
def AcceptsNone {σ : Type} (visitor : σ → Insn → σ × Bool) (s : σ) (insns : List Insn) : Prop :=
  ∀ front i back, insns = front ++ i :: back → (visitor (gathered visitor s front) i).2 = false

section

variable {σ : Type} {visitor : σ → Insn → σ × Bool} {s : σ}

theorem AcceptsNone.head {i : Insn} {insns : List Insn}
    (h : AcceptsNone visitor s (i :: insns)) : visitor s i = ((visitor s i).1, false) := by
  have hfirst : (visitor s i).2 = false := h [] i insns rfl
  rw [← hfirst]

theorem AcceptsNone.tail {i : Insn} {insns : List Insn}
    (h : AcceptsNone visitor s (i :: insns)) : AcceptsNone visitor (visitor s i).1 insns := by
  intro front j back hsplit
  exact h (i :: front) j back (by rw [hsplit, List.cons_append])

/-- What a visitor accepts none of is shown to it to the end, and then what follows. -/
theorem visitAll_append {front : List Insn} (h : AcceptsNone visitor s front) (back : List Insn) :
    visitAll visitor s (front ++ back) = visitAll visitor (gathered visitor s front) back := by
  induction front generalizing s with
  | nil => rfl
  | cons i front ih =>
    have hbehind := ih h.tail
    calc
      visitAll visitor s (i :: (front ++ back)) =
          visitAll visitor (visitor s i).1 (front ++ back) := by rw [visitAll, h.head]
      _ = visitAll visitor (gathered visitor s (i :: front)) back := hbehind

theorem visitAll_of_acceptsNone {insns : List Insn} (h : AcceptsNone visitor s insns) :
    visitAll visitor s insns = ⟨gathered visitor s insns, none⟩ := by
  have hend := visitAll_append h []
  rwa [List.append_nil] at hend

theorem visitAll_of_accepted {front back : List Insn} {i : Insn}
    (h : AcceptsNone visitor s front) (hi : (visitor (gathered visitor s front) i).2 = true) :
    visitAll visitor s (front ++ i :: back) =
      ⟨gathered visitor s (front ++ [i]), some i⟩ := by
  have hlast : visitor (gathered visitor s front) i =
      (gathered visitor s (front ++ [i]), true) := by
    rw [← hi, gathered, gathered, List.foldl_append]
    rfl
  rw [visitAll_append h, visitAll, hlast]

end

theorem gathered_findAll (wanted : Insn → Bool) (found insns : List Insn) :
    gathered (fun found i => (if wanted i then i :: found else found, false)) found insns =
      (insns.filter wanted).reverse ++ found := by
  induction insns generalizing found with
  | nil => rfl
  | cons i insns ih =>
    cases hi : wanted i with
    | true => simpa [gathered, hi] using ih (i :: found)
    | false => simpa [gathered, hi] using ih found

end Sweep

namespace Code

/-- A visitor of code is one of the instructions that a sweep meets. -/
theorem scan_eq_visitAll {σ : Type} (c : Code) (p : Resync) (visitor : σ → Insn → σ × Bool)
    (s : σ) : c.scan p visitor s = Sweep.visitAll visitor s (c.instructions p) :=
  Sweep.visit_eq_visitAll p visitor s c.start 0 c.bytes

/-- A search for all instructions with a property gives those that a sweep of the code meets. -/
theorem findAll_eq (c : Code) (p : Resync) (wanted : Insn → Bool) :
    c.findAll p wanted = (c.instructions p).filter wanted := by
  have hnone : Sweep.AcceptsNone
      (fun found i => (if wanted i then i :: found else found, false)) [] (c.instructions p) := by
    intro front i back _
    rfl
  rw [findAll, scan_eq_visitAll, Sweep.visitAll_of_acceptsNone hnone, Sweep.gathered_findAll]
  simp

/-! ## Streams -/

theorem instructions_of_laid {c : Code} {pieces : List (List UInt8)} {insns : List Insn}
    (hc : c.bytes = pieces.flatten) (h : Insn.Laid c.base pieces insns) (p : Resync) :
    c.instructions p = insns := by
  have hsweep : c.sweep p = insns.map .decoded := by
    rw [sweep, hc]
    exact h.steps_eq p
  rw [instructions, hsweep, List.filterMap_map]
  exact List.filterMap_some

/-- The address behind some pieces at the start of the code, and the next piece, do not wrap. -/
theorem toNat_base_add_of_pieces {c : Code} {pieces : List (List UInt8)}
    (hc : c.bytes = pieces.flatten) {n : Nat} (hn : n < pieces.length) :
    (c.base + ((pieces.take n).map List.length).sum).toNat =
        c.base.toNat + ((pieces.take n).map List.length).sum ∧
      c.base.toNat + ((pieces.take n).map List.length).sum + pieces[n].length < 1 <<< 64 := by
  have hsplit : pieces = pieces.take n ++ pieces[n] :: pieces.drop (n + 1) := by
    rw [List.getElem_cons_drop, List.take_append_drop]
  have hlength : c.bytes.length = ((pieces.take n).map List.length).sum +
      (pieces[n].length + ((pieces.drop (n + 1)).map List.length).sum) := by
    calc
      c.bytes.length = (pieces.map List.length).sum := by rw [hc, List.length_flatten]
      _ = ((pieces.take n ++ pieces[n] :: pieces.drop (n + 1)).map List.length).sum := by
        rw [← hsplit]
      _ = ((pieces.take n).map List.length).sum +
          (pieces[n].length + ((pieces.drop (n + 1)).map List.length).sum) := by
        simp only [List.map_append, List.map_cons, List.sum_append, List.sum_cons]
  have hfits := c.fits
  exact ⟨Address.toNat_add_of_lt (by omega), by omega⟩

theorem decode_base_of_ok {c : Code} {i : Insn} (h : Insn.decodeBytes c.base c.bytes = .ok i) :
    c.decode c.base = .ok i := by
  rcases Insn.length_of_decodeBytes h with ⟨hpos, _, hlen⟩
  have hne : c.isEmpty = false := isEmpty_eq_false_iff.2 (by omega)
  rw [decode_base hne, h]

/-- A sweep of pieces that are one instruction each shows these instructions to its visitor, in
order and under both policies: all of them if none is accepted, else those up to the first that is,
which is what the sweep gives. -/
theorem scan_of_pieces {pieces : List (List UInt8)} (h : ∀ bs ∈ pieces, Insn.IsWhole bs) {c : Code}
    (hc : c.bytes = pieces.flatten) :
    ∃ (insns : List Insn) (_ : insns.length = pieces.length),
      (∀ (n : Nat) (_ : n < pieces.length), ∃ alone : Code,
        alone.bytes = pieces[n] ∧
        alone.base.toNat = c.base.toNat + ((pieces.take n).map List.length).sum ∧
        alone.decode alone.base = .ok insns[n] ∧ insns[n].start = alone.base) ∧
      (∀ (p : Resync) (σ : Type) (visitor : σ → Insn → σ × Bool) (s : σ),
        Sweep.AcceptsNone visitor s insns →
          c.scan p visitor s = ⟨Sweep.gathered visitor s insns, none⟩) ∧
      (∀ (p : Resync) (σ : Type) (visitor : σ → Insn → σ × Bool) (s : σ) (n : Nat)
        (_ : n < insns.length),
        Sweep.AcceptsNone visitor s (insns.take n) →
        (visitor (Sweep.gathered visitor s (insns.take n)) insns[n]).2 = true →
          (c.scan p visitor s).found = true ∧ (c.scan p visitor s).record = insns[n] ∧
            (c.scan p visitor s).state = Sweep.gathered visitor s (insns.take (n + 1))) ∧
      ∀ (o : ScanOptions) (op : Opcode),
        c.findOpcode o op = insns.filter fun i => i.opcode == op := by
  rcases Insn.exists_laid h c.base with ⟨insns, hlaid⟩
  refine ⟨insns, hlaid.length_eq, ?_, ?_, ?_, ?_⟩
  · intro n hn
    rcases toNat_base_add_of_pieces hc hn with ⟨hplace, hfits⟩
    let alone : Code := ⟨c.base + ((pieces.take n).map List.length).sum, pieces[n], hplace ▸ hfits⟩
    have hi : n < insns.length := hlaid.length_eq ▸ hn
    have hdecode : alone.decode alone.base = .ok insns[n] :=
      decode_base_of_ok (hlaid.decode_getElem hn hi)
    exact ⟨alone, rfl, hplace, hdecode, start_of_decode hdecode⟩
  · intro p σ visitor s hnone
    rw [scan_eq_visitAll, instructions_of_laid hc hlaid]
    exact Sweep.visitAll_of_acceptsNone hnone
  · intro p σ visitor s n hn hnone haccepted
    have hsplit : insns = insns.take n ++ insns[n] :: insns.drop (n + 1) := by
      rw [List.getElem_cons_drop, List.take_append_drop]
    have hscan : c.scan p visitor s =
        ⟨Sweep.gathered visitor s (insns.take n ++ [insns[n]]), some insns[n]⟩ := by
      calc
        c.scan p visitor s = Sweep.visitAll visitor s insns := by
          rw [scan_eq_visitAll, instructions_of_laid hc hlaid]
        _ = Sweep.visitAll visitor s (insns.take n ++ insns[n] :: insns.drop (n + 1)) := by
          rw [← hsplit]
        _ = ⟨Sweep.gathered visitor s (insns.take n ++ [insns[n]]), some insns[n]⟩ :=
          Sweep.visitAll_of_accepted hnone haccepted
    have htake : insns.take n ++ [insns[n]] = insns.take (n + 1) := List.take_append_getElem hn
    rw [hscan, htake]
    exact ⟨rfl, rfl, rfl⟩
  · intro o op
    rw [findOpcode, findAll_eq, instructions_of_laid hc hlaid]

/-- A frame is set up, something is called, and the function returns. -/
def bodyPieces : List (List UInt8) :=
  [[0x55], [0x48, 0x89, 0xe5], [0xe8, 0x20, 0x00, 0x00, 0x00], [0xc3]]

def bodyCode : Code :=
  ⟨.ofNat 0x401000, bodyPieces.flatten, by decide⟩

theorem isWhole_of_mem_bodyPieces : ∀ bs ∈ bodyPieces, Insn.IsWhole bs := by
  have hwhole (c : Code)
      (h : (c.decode c.base).toOption.any (fun i => i.length == c.bytes.length) = true) :
      Insn.IsWhole c.bytes := by
    cases hdecode : c.decode c.base with
    | error e => simp [hdecode, Except.toOption] at h
    | ok i => exact ⟨c, i, rfl, hdecode, by simpa [hdecode, Except.toOption] using h⟩
  simp only [bodyPieces, List.forall_mem_cons]
  refine ⟨hwhole ⟨.zero, [0x55], by decide⟩ (by decide),
    hwhole ⟨.zero, [0x48, 0x89, 0xe5], by decide⟩ (by decide),
    hwhole ⟨.zero, [0xe8, 0x20, 0x00, 0x00, 0x00], by decide⟩ (by decide),
    hwhole ⟨.zero, [0xc3], by decide⟩ (by decide), by simp⟩

/-- One visitor keeps what it is shown, the other counts and accepts the third. -/
theorem scan_of_pieces_body :
    ∃ insns : List Insn, insns.length = 4 ∧
      bodyCode.scan .stop (fun (seen : List Insn) i => (seen ++ [i], false)) [] = ⟨insns, none⟩ ∧
      (∃ third, insns[2]? = some third ∧
        (bodyCode.scan .byteWise (fun (seen : Nat) _ => (seen + 1, seen == 2)) 0).found = true ∧
        (bodyCode.scan .byteWise (fun (seen : Nat) _ => (seen + 1, seen == 2)) 0).record = third) ∧
      bodyCode.findOpcode {} .ret = insns.filter fun i => i.opcode == .ret := by
  rcases scan_of_pieces isWhole_of_mem_bodyPieces (c := bodyCode) rfl with
    ⟨insns, hlen, _, hnone, haccepted, hfind⟩
  have hfour : insns.length = 4 := hlen
  refine ⟨insns, hfour, ?_, ⟨insns[2], List.getElem?_eq_getElem (by omega), ?_⟩, hfind {} .ret⟩
  · have hkept : Sweep.gathered (fun (seen : List Insn) i => (seen ++ [i], false)) [] insns =
        insns := by
      rw [Sweep.gathered, List.foldl_append_eq_append]
      exact List.flatMap_singleton' insns
    rw [hnone .stop (List Insn) _ [] (fun _ _ _ _ => rfl), hkept]
  · have hcount (front : List Insn) :
        Sweep.gathered (fun (seen : Nat) _ => (seen + 1, seen == 2)) 0 front = front.length := by
      simp [Sweep.gathered]
    have hthird := haccepted .byteWise Nat (fun seen _ => (seen + 1, seen == 2)) 0 2
      (by omega) ?_ ?_
    · exact ⟨hthird.1, hthird.2.1⟩
    · intro front i back hsplit
      have hshort := congrArg List.length hsplit
      simp only [List.length_take, List.length_append, List.length_cons] at hshort
      rw [hcount]
      have hne : front.length ≠ 2 := by omega
      simpa using hne
    · rw [hcount, List.length_take_of_le (by omega)]
      rfl

end Code

end CodeSurvey
