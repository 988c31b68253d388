import CodeSurvey.CommandLine.Report
import CodeSurvey.Proofs.Sweep.Strict
import CodeSurvey.Proofs.Text.HexBytes
import Mathlib.Data.List.Forall2

/-!
# Listings

A listing decodes on its own, without a sweep and in the whole code. Its rows are still those that a
strict sweep from the same address would show, up to their number, and their columns of bytes are
the bytes of the code.

* `ListingLine.Shows` : a row says what an instruction is;
* `ListingLine.Contiguous` : each row begins where the one in front of it ends;
* `ListingLine.readColumn` : the bytes that are written in the rows;
* `ListingLine.rowsInto` : the loop that collects rows, with one record for all instructions;
* `ListingLine.Lists` : what is claimed of the rows of a listing;
* `ListingLine.lists_strict_sweep` : every listing from an address of the code on is like that.
-/

namespace CodeSurvey

/-! ## Listed instructions -/

namespace Code

variable {c : Code} {a u : Address} {is : List Insn}

theorem StrictRun.listing_eq (h : c.StrictRun a is) (count : Nat) :
    c.listing count a = is.take count := by
  induction h generalizing count with
  | @stuck a fails =>
    cases count with
    | zero => rfl
    | succ n =>
      rw [listing]
      split
      · next i hi => exact absurd hi (fails i)
      · rfl
  | @insn a i is decode _ ih =>
    cases count with
    | zero => rfl
    | succ n => rw [listing, decode, List.take_succ_cons, ← ih n]

/-- A visitor that accepts nothing is shown everything. -/
theorem presented_of_accepts_none {σ : Type} {visitor : σ → Insn → σ × Bool}
    (h : ∀ s i, (visitor s i).2 = false) (c : Code) (p : Resync) (s : σ) :
    c.presented p visitor s = c.instructions p := by
  rcases presented_cases c p visitor s with ⟨_, hall, _⟩ | ⟨front, i, _, _, _, hi, _, _⟩
  · exact hall
  · rw [h] at hi
    cases hi

theorem Tiles.le_stop {p : Resync} (h : c.Tiles p a is u) (ha : a ≤ c.stop) : u ≤ c.stop := by
  induction h with
  | done a => exact ha
  | insn decode _ ih => exact ih (stop_of_decode decode).2.2
  | skip _ inside _ _ ih => exact ih (toNat_succ_of_contains inside).2

/-- The bytes of the code from one address to another. -/
def bytesBetween (c : Code) (a u : Address) : List UInt8 :=
  (c.bytes.drop (a.toNat - c.base.toNat)).take (u.toNat - a.toNat)

theorem bytesBetween_append {b : Address} (hlow : c.base ≤ a) (hab : a ≤ b) (hbu : b ≤ u) :
    c.bytesBetween a b ++ c.bytesBetween b u = c.bytesBetween a u := by
  rw [Address.le_iff] at hlow hab hbu
  have hsplit : u.toNat - a.toNat = (b.toNat - a.toNat) + (u.toNat - b.toNat) := by omega
  have hdrop : b.toNat - c.base.toNat = (a.toNat - c.base.toNat) + (b.toNat - a.toNat) := by omega
  rw [bytesBetween, bytesBetween, bytesBetween, hsplit, hdrop, List.take_add, List.drop_drop]

/-- The second lookup of an instruction's bytes always finds them. -/
theorem bytesIn?_of_decode {i : Insn} (h : c.decode a = .ok i) :
    i.bytesIn? c = some (c.bytesBetween a i.stop) := by
  have hstop := (stop_of_decode h).1
  rcases (liesIn_of_decode h).bytes with ⟨bs, hbytes, hlength, hholds⟩
  have htake := hholds.eq_take
  have hspan : bs.length = i.stop.toNat - a.toNat := by omega
  rw [hbytes, bytesBetween, ← hspan, ← htake]

end Code

namespace CommandLine.ListingLine

variable {c : Code} {a u : Address} {is : List Insn}

/-! ## Rows -/

/-- The row is about the instruction. -/
structure Shows (l : ListingLine) (i : Insn) : Prop where
  address : l.address = i.start
  length : l.length = i.length
  mnemonic : l.mnemonic = i.mnemonic
  kind : l.kind = i.kind.label

theorem shows_ofInsn (c : Code) (i : Insn) : (ofInsn c i).Shows i :=
  ⟨rfl, rfl, rfl, rfl⟩

/-- The rows fill the addresses from one to another: the first begins there, and each of the others
where the one in front of it ends, without wrapping. -/
inductive Contiguous : Address → List ListingLine → Address → Prop where
  | done (a : Address) : Contiguous a [] a
  | row {a b u : Address} {l : ListingLine} {ls : List ListingLine} (begins : l.address = a)
      (ends : b.toNat = a.toNat + l.length) (rest : Contiguous b ls u) : Contiguous a (l :: ls) u

/-- The columns of bytes, read one by one and put together. -/
def readColumn (ls : List ListingLine) : Option (List UInt8) :=
  (ls.mapM fun l => Text.readHexBytes l.bytes).map List.flatten

theorem readColumn_cons {l : ListingLine} {ls : List ListingLine} {bs rest : List UInt8}
    (hl : Text.readHexBytes l.bytes = some bs) (hls : readColumn ls = some rest) :
    readColumn (l :: ls) = some (bs ++ rest) := by
  rcases Option.map_eq_some_iff.1 hls with ⟨columns, hcolumns, rfl⟩
  simp [readColumn, hl, hcolumns]

/-- The rows of instructions that fill some addresses fill them too, and have their bytes. -/
theorem contiguous_of_tiles (h : c.Tiles .stop a is u) :
    Contiguous a (is.map (ofInsn c)) u ∧
      readColumn (is.map (ofInsn c)) = some (c.bytesBetween a u) := by
  induction h with
  | done a => exact ⟨.done a, by simp [readColumn, Code.bytesBetween]⟩
  | @insn a u i is decode rest ih =>
    -- The first row ends where the others begin, so their bytes are put together there.
    rcases Code.stop_of_decode decode with ⟨hstop, _, _⟩
    have hlow := ((c.contains_iff a).1 (Code.contains_of_decode decode)).1
    have hup : a ≤ i.stop := by
      rw [Address.le_iff]
      omega
    refine ⟨.row (Code.start_of_decode decode) hstop ih.1, ?_⟩
    have hcolumn : Text.readHexBytes (ofInsn c i).bytes = some (c.bytesBetween a i.stop) := by
      show Text.readHexBytes (Text.hexBytes " " ((i.bytesIn? c).getD [])) = _
      rw [Code.bytesIn?_of_decode decode, Option.getD_some, Text.readHexBytes_hexBytes]
    rw [List.map_cons, readColumn_cons hcolumn ih.2, Code.bytesBetween_append hlow hup rest.le]
  | skip goesOn _ _ _ _ => cases goesOn

/-! ## The loop -/

/-- The loop that collects rows: as long as there are too few and the end is not reached, it decodes
into its record, adds a row and goes on behind it. Where decoding fails it ends. -/
def rowsInto (c : Code) (count : Nat) (record : Insn) (ls : List ListingLine) (a : Address) :
    List ListingLine :=
  if _ : ls.length < count ∧ a < c.stop then
    match c.decodeInto record a with
    | (i, none) => rowsInto c count i (ls ++ [ofInsn c i]) i.stop
    | (_, some _) => ls
  else ls
termination_by count - ls.length
decreasing_by
  rw [List.length_append, List.length_singleton]
  omega

/-- The loop adds the rows of a listing, whatever its record held before. -/
theorem rowsInto_eq (c : Code) (count : Nat) (record : Insn) (ls : List ListingLine)
    (a : Address) :
    rowsInto c count record ls a =
      ls ++ (c.listing (count - ls.length) a).map (ofInsn c) := by
  fun_induction rowsInto c count record ls a with
  | case1 record ls a hgo i hinto ih =>
    have hdecode : c.decode a = .ok i := Code.decodeInto_eq_ok_iff.1 hinto
    -- A row that is added leaves room for one fewer.
    have hroom : count - ls.length = count - (ls ++ [ofInsn c i]).length + 1 := by
      rw [List.length_append, List.length_singleton]
      omega
    rw [ih, hroom, Code.listing, hdecode, List.append_assoc]
    rfl
  | case2 record ls a hgo i e hinto =>
    have hdecode : c.decode a = .error e := (Code.decodeInto_eq_error_iff.1 hinto).1
    have hnone (n : Nat) : c.listing n a = [] := by
      cases n with
      | zero => rfl
      | succ n => rw [Code.listing, hdecode]
    rw [hnone, List.map_nil, List.append_nil]
  | case3 record ls a hend =>
    have hnone : c.listing (count - ls.length) a = [] := by
      cases hleft : count - ls.length with
      | zero => rfl
      | succ n =>
        -- There is room for more rows, so the address is at the end of the code or behind it.
        have hpast : ¬a < c.stop := fun hlt => hend ⟨by omega, hlt⟩
        rw [Code.listing]
        split
        · next i hi =>
          rcases (c.contains_iff a).1 (Code.contains_of_decode hi) with ⟨_, hhigh⟩
          rw [Address.lt_iff, c.toNat_stop] at hpast
          exact absurd hhigh hpast
        · rfl
    rw [hnone, List.map_nil, List.append_nil]

/-! ## Whole listings -/

/-- The rows are about the first of the instructions, at most so many. They fill the addresses from
the given one up to one in the code, and their columns are the bytes in between. -/
structure Lists (c : Code) (a : Address) (count : Nat) (shown : List Insn)
    (ls : List ListingLine) : Prop where
  length : ls.length = min count shown.length
  rows : List.Forall₂ Shows ls (shown.take count)
  bytes : ∃ u, Contiguous a ls u ∧ u ≤ c.stop ∧ readColumn ls = some (c.bytesBetween a u)

theorem lists_of_strictRun (h : c.StrictRun a is) (ha : c.contains a = true) (count : Nat) :
    Lists c a count is ((c.listing count a).map (ofInsn c)) := by
  have hlow : a ≤ c.stop := by
    rw [Address.le_iff, c.toNat_stop]
    exact Nat.le_of_lt ((c.contains_iff a).1 ha).2
  rw [h.listing_eq]
  constructor
  case length => rw [List.length_map, List.length_take]
  case rows => exact List.forall₂_map_left_iff.2 (List.forall₂_same.2 fun i _ => shows_ofInsn c i)
  case bytes =>
    rcases h.exists_tiles_take count with ⟨u, htiles⟩
    rcases contiguous_of_tiles htiles with ⟨hcontiguous, hcolumn⟩
    exact ⟨u, hcontiguous, htiles.le_stop hlow, hcolumn⟩

/-- A listing from an address of the code on shows what a strict sweep of the rest shows to any
visitor that accepts nothing, up to the number of rows, and the loop gives the same rows. -/
theorem lists_strict_sweep {σ : Type} (visitor : σ → Insn → σ × Bool) (s : σ)
    (hall : ∀ s i, (visitor s i).2 = false) (ha : c.contains a = true) (count : Nat) :
    Lists c a count ((c.tailFrom a).presented .stop visitor s)
        ((c.listing count a).map (ofInsn c)) ∧
      ∀ record, rowsInto c count record [] a = (c.listing count a).map (ofInsn c) := by
  rw [Code.presented_of_accepts_none hall]
  refine ⟨lists_of_strictRun (Code.strictRun_tailFrom ha) ha count, fun record => ?_⟩
  exact rowsInto_eq c count record [] a

/-- From the first call on there are two instructions; a listing of one row has the first. -/
theorem lists_strict_sweep_twoCalls :
    ∃ shown ls, shown.length = 2 ∧ ls.length = 1 ∧
      Lists Code.twoCalls (.ofNat 0x401001) 1 shown ls := by
  have hlists := lists_strict_sweep (c := Code.twoCalls) (a := .ofNat 0x401001)
    (fun (n : Nat) _ => (n + 1, false)) 0 (fun _ _ => rfl) (by decide) 1
  exact ⟨_, _, rfl, rfl, hlists.1⟩

end CommandLine.ListingLine

end CodeSurvey
