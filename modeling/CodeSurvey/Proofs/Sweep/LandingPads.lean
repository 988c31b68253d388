import CodeSurvey.Insn.Listing
import CodeSurvey.Proofs.Decode.Kinds
import CodeSurvey.Proofs.Sweep.Markers

/-!
# Landing pads

A landing pad is recognised in two ways. The search for markers compares four bytes, and decoding
takes the repeat prefix from anywhere among the prefixes. A marker is always decoded to a landing
pad; a decoded landing pad ends in a marker exactly if nothing stands between its repeat prefix and
its opcode.

* `Encoding.IsLandingPad e` : the repeat prefix is among the prefixes of a hint no-op with ModRM
  `fa`;
* `Encoding.IsLandingPad.toBytes_eq` : the bytes of such an instruction;
* `Encoding.EndsInMarker e` : the repeat prefix comes last, and there is no REX byte;
* `Code.exists_marker_within_iff` : then, and only then, there is a marker in the instruction;
* `Code.landingPads_of_decode` : where both ways agree.
-/

namespace CodeSurvey

namespace Encoding

/-- The fields of a decoded `endbr64`. -/
structure IsLandingPad (e : Encoding) : Prop where
  opcode : e.opcode = .ofEscaped 0x1e
  modrm : e.modrm = some ⟨0xfa⟩
  rep : 0xf3 ∈ e.legacy

/-- Nothing stands between a repeat prefix and the opcode. -/
def EndsInMarker (e : Encoding) : Prop :=
  e.rex = none ∧ e.legacy.getLast? = some 0xf3

variable {e : Encoding} {shape : Shape}

/-- Behind its prefixes such an instruction has three bytes. -/
theorem IsLandingPad.toBytes_eq (h : e.IsLandingPad) (hvalid : e.Valid shape) :
    e.toBytes = e.legacy ++ e.rex.toList ++ [0x0f, 0x1e, 0xfa] := by
  have hwf := valid_iff_wellFormed.1 hvalid
  have hhint : e.opcode.shape? = some ⟨true, .empty⟩ := by
    rw [h.opcode]
    decide
  have hoperand : e.operand = [] := List.length_eq_zero_iff.1 (hvalid.length_operand hhint)
  -- The ModRM byte names a register, so nothing follows it.
  have hsib : e.sib = none := by
    have hno := hwf.sib_isSome
    rw [h.modrm] at hno
    exact Option.not_isSome_iff_eq_none.1 (by rw [hno]; decide)
  have hdisplacement : e.displacement = [] := by
    have hno := hwf.displacement_length
    rw [h.modrm, hsib] at hno
    exact List.length_eq_zero_iff.1 hno
  have hopcode : e.opcode.bytes = [0x0f, 0x1e] := by
    rw [h.opcode]
    decide
  simp [toBytes, hopcode, h.modrm, hsib, hdisplacement, hoperand]

/-- The last byte in front of the opcode is a repeat prefix exactly then: a REX byte is none. -/
theorem endsInMarker_iff (hvalid : e.Valid shape) :
    e.EndsInMarker ↔ (e.legacy ++ e.rex.toList).getLast? = some 0xf3 := by
  rw [EndsInMarker]
  cases hrex : e.rex with
  | none => simp
  | some b =>
    have hb := (hvalid.rex b hrex).2
    have hne : b ≠ 0xf3 := by
      rintro rfl
      exact absurd hb (by decide)
    simp [hne]

/-- Neither a legacy prefix nor a REX byte is the escape. -/
theorem ne_escape_of_mem (hvalid : e.Valid shape) {b : UInt8} (hb : b ∈ e.legacy ++ e.rex.toList) :
    b ≠ 0x0f := by
  rintro rfl
  rcases List.mem_append.1 hb with hlegacy | hrex
  · exact absurd (hvalid.legacy _ hlegacy) (by decide)
  · exact absurd (hvalid.rex _ (Option.mem_toList.1 hrex)).1 (by decide)

/-- The last four bytes are a marker exactly if the byte in front of the last three is a repeat
prefix. -/
theorem IsLandingPad.isSuffix_toBytes_iff (h : e.IsLandingPad) (hvalid : e.Valid shape) :
    [0xf3, 0x0f, 0x1e, 0xfa] <:+ e.toBytes ↔ e.EndsInMarker := by
  rw [endsInMarker_iff hvalid, h.toBytes_eq hvalid, List.getLast?_eq_some_iff]
  constructor
  · rintro ⟨front, hfront⟩
    have hsplit : (front ++ [0xf3]) ++ [0x0f, 0x1e, 0xfa] =
        (e.legacy ++ e.rex.toList) ++ [0x0f, 0x1e, 0xfa] := by simpa using hfront
    exact ⟨front, (List.append_cancel_right hsplit).symm⟩
  · rintro ⟨front, hfront⟩
    exact ⟨front, by simp [hfront]⟩

end Encoding

namespace Insn

variable {a : Address} {e : Encoding} {shape : Shape}

theorem mnemonic_eq_endbr64_iff {i : Insn} (hkind : i.kind = .landingPad) :
    i.mnemonic = "endbr64" ↔ ∀ m ∈ i.modrm, m.raw ≠ 0xfb := by
  rw [mnemonic, if_pos hkind]
  cases i.modrm with
  | none => simp
  | some m => simp

theorem isLandingPad_iff :
    (ofEncoding a e).kind = .landingPad ∧ (ofEncoding a e).mnemonic = "endbr64" ↔
      e.IsLandingPad := by
  have hrep : (ofEncoding a e).prefixes.rep = true ↔ 0xf3 ∈ e.legacy := e.prefixes_collects.rep
  constructor
  · rintro ⟨hkind, hname⟩
    rcases kind_eq_landingPad_iff.1 hkind with ⟨op, rep, m, hm, hraw⟩
    -- Of the two ModRM bytes of a landing pad, the other one has another name.
    have hnot := (mnemonic_eq_endbr64_iff hkind).1 hname m hm
    have hpad : m = ⟨0xfa⟩ := congrArg ModRM.mk (hraw.resolve_right hnot)
    exact ⟨op, hpad ▸ hm, hrep.1 rep⟩
  · intro h
    have hkind : (ofEncoding a e).kind = .landingPad :=
      kind_eq_landingPad_iff.2 ⟨h.opcode, hrep.2 h.rep, _, h.modrm, .inl rfl⟩
    refine ⟨hkind, (mnemonic_eq_endbr64_iff hkind).2 ?_⟩
    intro m hm
    cases Option.some.inj (h.modrm.symm.trans hm)
    decide

end Insn

/-! ## Markers in an instruction -/

/-- A marker that begins in front of the last three bytes begins with the byte next to them, because
no byte in front of them is the escape. -/
theorem getLast?_of_marker {front : List UInt8} (hfront : ∀ b ∈ front, b ≠ 0x0f) {k : Nat}
    (hfirst : (front ++ [0x0f, 0x1e, 0xfa])[k]? = some 0xf3)
    (hsecond : k + 1 < front.length + 3 → (front ++ [0x0f, 0x1e, 0xfa])[k + 1]? = some 0x0f) :
    front.getLast? = some 0xf3 := by
  have hk : k < front.length := by
    refine Nat.lt_of_not_le fun hge => ?_
    rw [List.getElem?_append_right hge] at hfirst
    exact absurd (List.mem_of_getElem? hfirst) (by decide)
  rw [List.getElem?_append_left hk] at hfirst
  -- Anywhere else the second byte of the marker would be in front of the three as well.
  have hnext : front.length ≤ k + 1 := by
    refine Nat.le_of_not_lt fun hmore => ?_
    have hescape := hsecond (Nat.lt_add_right 3 hmore)
    rw [List.getElem?_append_left hmore] at hescape
    exact hfront _ (List.mem_of_getElem? hescape) rfl
  have hlast : k = front.length - 1 := by omega
  rw [List.getLast?_eq_getElem?, ← hlast]
  exact hfirst

namespace Code

variable {c : Code} {a : Address}

/-- What lies at the end of some bytes lies in the code as far behind their start. -/
theorem Holds.of_append {front back : List UInt8} (h : c.Holds a (front ++ back)) :
    c.Holds (a + front.length) back := by
  have hfits := c.fits
  have hbounds := h.bounds
  rw [List.length_append] at hbounds
  rcases h with ⟨before, behind, hbytes, ha⟩
  refine ⟨before ++ front, behind, by simp [hbytes], ?_⟩
  rw [Address.toNat_add_of_lt (by omega), ha, List.length_append, Nat.add_assoc]

theorem exists_marker_within_iff {e : Encoding} {shape : Shape} (h : e.IsLandingPad)
    (hvalid : e.Valid shape) (hholds : c.Holds a e.toBytes) :
    (∃ b, c.Holds b [0xf3, 0x0f, 0x1e, 0xfa] ∧ a.toNat ≤ b.toNat ∧
      b.toNat < a.toNat + e.toBytes.length) ↔ e.EndsInMarker := by
  have hbytes := h.toBytes_eq hvalid
  rw [Encoding.endsInMarker_iff hvalid]
  constructor
  · rintro ⟨b, hb, hle, hlt⟩
    have hlow := hholds.bounds.1
    -- Both the instruction and the marker say which byte is at a place that they share.
    have hshared {j : Nat} (hj : j < 4) (hin : b.toNat - a.toNat + j < e.toBytes.length) :
        e.toBytes[b.toNat - a.toNat + j]? = [0xf3, 0x0f, 0x1e, 0xfa][j]? := by
      have hplace : a.toNat - c.base.toNat + (b.toNat - a.toNat + j) =
          b.toNat - c.base.toNat + j := by omega
      rw [← hholds.getElem? hin, ← hb.getElem? hj, hplace]
    rw [hbytes] at hshared hlt
    refine getLast?_of_marker (fun b hb => Encoding.ne_escape_of_mem hvalid hb)
      (hshared (j := 0) (by decide) (by omega)) ?_
    intro hin
    exact hshared (j := 1) (by decide) (by rw [List.length_append]; exact hin)
  · intro hlast
    rcases List.getLast?_eq_some_iff.1 hlast with ⟨front, hfront⟩
    have hend : e.toBytes = front ++ [0xf3, 0x0f, 0x1e, 0xfa] := by simp [hbytes, hfront]
    rw [hend] at hholds
    have hbounds := hholds.bounds
    have hfits := c.fits
    have hplace : (a + front.length).toNat = a.toNat + front.length := by
      rw [List.length_append] at hbounds
      exact Address.toNat_add_of_lt (by omega)
    refine ⟨a + front.length, hholds.of_append, by omega, ?_⟩
    rw [hplace, hend, List.length_append]
    exact Nat.add_lt_add_left (Nat.lt_add_of_pos_right (by decide)) _

/-- Searched from the start of an instruction on, the lowest marker is in the instruction if any
marker is. -/
theorem findPrologue?_tailFrom_within_iff {i : Insn} (h : c.decode a = .ok i) (p : Resync) :
    (∃ b, (c.tailFrom a).findPrologue? ⟨p, none⟩ .landingPad = some b ∧ a.toNat ≤ b.toNat ∧
        b.toNat < a.toNat + i.length) ↔
      ∃ b, c.Holds b [0xf3, 0x0f, 0x1e, 0xfa] ∧ a.toNat ≤ b.toNat ∧
        b.toNat < a.toNat + i.length := by
  have hin := (c.contains_iff a).1 (contains_of_decode h)
  have hstop := c.toNat_stop
  have htail : c.IsTail (c.tailFrom a) a := isTail_tailFrom hin.1 (Nat.le_of_lt (by omega))
  have hmarker {b : Address} : (c.tailFrom a).IsMarker ⟨p, none⟩ b ↔
      c.Holds b [0xf3, 0x0f, 0x1e, 0xfa] ∧ a.toNat ≤ b.toNat := by
    rw [htail.isMarker_iff]
    simp [IsMarker]
  constructor
  · rintro ⟨b, hfind, hle, hlt⟩
    exact ⟨b, (hmarker.1 (isMarker_of_findMarker? hfind)).1, hle, hlt⟩
  · rintro ⟨b, hb, hle, hlt⟩
    rcases (hmarker.2 ⟨hb, hle⟩).exists_findMarker? with ⟨b', hfind, hb'⟩
    rw [Address.le_iff] at hb'
    exact ⟨b', hfind, (hmarker.1 (isMarker_of_findMarker? hfind)).2, by omega⟩

/-! ## Markers are decoded -/

/-- The fields of a marker. -/
def markerEncoding : Encoding where
  legacy := [0xf3]
  rex := none
  opcode := .ofEscaped 0x1e
  modrm := some ⟨0xfa⟩
  sib := none
  displacement := []
  operand := []

theorem wellFormed_markerEncoding : markerEncoding.WellFormed ⟨true, .empty⟩ := by
  refine ⟨?_, ?_, by decide, by decide, rfl, rfl, rfl, rfl⟩
  · intro b hb
    cases List.mem_singleton.1 hb
    decide
  · rintro b ⟨⟩

theorem decode_of_holds_marker (h : c.Holds a [0xf3, 0x0f, 0x1e, 0xfa]) :
    c.decode a = .ok (.ofEncoding a markerEncoding) :=
  decode_eq_ok_iff.2 ⟨markerEncoding, _, wellFormed_markerEncoding, by decide, h, rfl⟩

/-! ## Both ways together -/

/-- What is decoded as `endbr64` is prefixes and three more bytes, and has a marker in it exactly if
a repeat prefix is the last of them. A marker is always decoded as `endbr64`. -/
theorem landingPads_of_decode (c : Code) :
    (∀ a i, c.decode a = .ok i → i.kind = .landingPad → i.mnemonic = "endbr64" →
      ∃ (e : Encoding) (shape : Shape), e.Valid shape ∧ i.Records a e ∧ c.Holds a e.toBytes ∧
        0xf3 ∈ e.legacy ∧ e.toBytes = e.legacy ++ e.rex.toList ++ [0x0f, 0x1e, 0xfa] ∧
        ([0xf3, 0x0f, 0x1e, 0xfa] <:+ e.toBytes ↔ e.EndsInMarker) ∧
        ∀ p, (∃ b, (c.tailFrom a).findPrologue? ⟨p, none⟩ .landingPad = some b ∧
          a.toNat ≤ b.toNat ∧ b.toNat < a.toNat + i.length) ↔ e.EndsInMarker) ∧
      ∀ a, c.Holds a [0xf3, 0x0f, 0x1e, 0xfa] →
        ∃ i, c.decode a = .ok i ∧ i.length = 4 ∧ i.kind = .landingPad ∧ i.mnemonic = "endbr64" := by
  constructor
  · intro a i h hkind hname
    rcases exists_ofEncoding_of_decode h with ⟨e, shape, rfl, hvalid, hrecords, hholds⟩
    have hpad : e.IsLandingPad := Insn.isLandingPad_iff.1 ⟨hkind, hname⟩
    refine ⟨e, shape, hvalid, hrecords, hholds, hpad.rep, hpad.toBytes_eq hvalid,
      hpad.isSuffix_toBytes_iff hvalid, ?_⟩
    intro p
    rw [findPrologue?_tailFrom_within_iff h p]
    exact exists_marker_within_iff hpad hvalid hholds
  · intro a h
    exact ⟨_, decode_of_holds_marker h, rfl, rfl, rfl⟩

/-- A marker behind another prefix, which is decoded from both addresses. -/
def prefixedPad : Code :=
  ⟨.ofNat 0x401000, [0x66, 0xf3, 0x0f, 0x1e, 0xfa], by decide⟩

theorem landingPads_of_decode_prefixedPad :
    (∃ (e : Encoding) (shape : Shape), e.Valid shape ∧
      prefixedPad.Holds (.ofNat 0x401000) e.toBytes ∧ e.EndsInMarker) ∧
      ∃ i, prefixedPad.decode (.ofNat 0x401001) = .ok i ∧ i.length = 4 ∧ i.kind = .landingPad ∧
        i.mnemonic = "endbr64" := by
  rcases landingPads_of_decode prefixedPad with ⟨hdecoded, hmarkers⟩
  refine ⟨?_, hmarkers (.ofNat 0x401001) ⟨[0x66], [], rfl, rfl⟩⟩
  rcases hdecoded (.ofNat 0x401000) _ rfl (by decide) (by decide) with
    ⟨e, shape, hvalid, _, hholds, _, _, _, hsearch⟩
  exact ⟨e, shape, hvalid, hholds,
    (hsearch .stop).1 ⟨.ofNat 0x401001, by decide, by decide, by decide⟩⟩

/-- A REX byte between the repeat prefix and the opcode. -/
def splitPad : Code :=
  ⟨.ofNat 0x401000, [0xf3, 0x48, 0x0f, 0x1e, 0xfa], by decide⟩

/-- The whole code is one landing pad, and there is no marker in it. -/
theorem decode_splitPad :
    ∃ i, splitPad.decode (.ofNat 0x401000) = .ok i ∧ i.kind = .landingPad ∧
      i.mnemonic = "endbr64" ∧ i.bytesIn? splitPad = some splitPad.bytes ∧
      ¬[0xf3, 0x0f, 0x1e, 0xfa] <:+ splitPad.bytes ∧
      (splitPad.tailFrom (.ofNat 0x401000)).findPrologue? ⟨.byteWise, none⟩ .landingPad = none :=
  ⟨_, rfl, by decide, by decide, by decide, by decide, by decide⟩

end Code

end CodeSurvey
