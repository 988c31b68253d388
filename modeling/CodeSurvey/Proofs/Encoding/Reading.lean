import CodeSurvey.Proofs.Encoding.Opcodes

/-!
# What reading an encoding gives

`Encoding.read` is compared with the layout `Encoding.toBytes` of well-formed encodings.

* `Encoding.read_eq_ok_iff` : reading succeeds with `e` exactly on the bytes of a well-formed `e`
  followed by the rest;
* `Encoding.read_eq_unsupported_iff` : reading refuses an opcode exactly where prefixes, REX and
  that opcode stand in front and the opcode has no shape;
* `Encoding.read_append_of_ok`, `read_append_of_unsupported` : more bytes behind do not change
  either answer;
* `Encoding.read_of_cut` : a proper front part of a well-formed encoding runs out.

Reading is done in two stages, the *opening* (prefixes, REX and opcode) and the fields whose
presence the opcode decides; each stage has its own equivalence.
-/

/-! ## Sequencing -/

theorem Except.bind_eq_ok_iff {ε α β : Type} {x : Except ε α} {f : α → Except ε β} {b : β} :
    (x >>= f) = .ok b ↔ ∃ a, x = .ok a ∧ f a = .ok b := by
  cases x with
  | error e => simp [bind, Except.bind]
  | ok a => simp [bind, Except.bind]

theorem Except.bind_eq_error_iff {ε α β : Type} {x : Except ε α} {f : α → Except ε β} {e : ε} :
    (x >>= f) = .error e ↔ x = .error e ∨ ∃ a, x = .ok a ∧ f a = .error e := by
  cases x with
  | error e => simp [bind, Except.bind]
  | ok a => simp [bind, Except.bind]

namespace CodeSurvey.Encoding

/-! ## Single readers -/

theorem readByteIf_eq_ok_iff {wanted : Bool} {bs rest : List UInt8} {b : Option UInt8} :
    readByteIf wanted bs = .ok (b, rest) ↔ b.isSome = wanted ∧ bs = b.toList ++ rest := by
  unfold readByteIf
  cases wanted with
  | false =>
    cases b with
    | none => simp
    | some b => simp
  | true =>
    cases bs with
    | nil => cases b <;> simp
    | cons c bs => cases b <;> simp

theorem readBytes_eq_ok_iff {n : Nat} {bs front rest : List UInt8} :
    readBytes n bs = .ok (front, rest) ↔ front.length = n ∧ bs = front ++ rest := by
  constructor
  · intro h
    cases hs : Bytes.split? n bs with
    | none => simp [readBytes, hs] at h
    | some r =>
      have hr : r = (front, rest) := by simpa [readBytes, hs] using h
      rcases Bytes.split?_append (hr ▸ hs) with ⟨happ, hlen⟩
      exact ⟨hlen, happ⟩
  · rintro ⟨rfl, rfl⟩
    simp [readBytes, Bytes.split?_of_append]

theorem readByteIf_ne_unsupported {wanted : Bool} {bs : List UInt8} {op : Opcode} :
    readByteIf wanted bs ≠ .error (.unsupported op) := by
  unfold readByteIf
  cases wanted with
  | false => simp
  | true => cases bs <;> simp

theorem readBytes_ne_unsupported {n : Nat} {bs : List UInt8} {op : Opcode} :
    readBytes n bs ≠ .error (.unsupported op) := by
  unfold readBytes
  cases Bytes.split? n bs <;> simp

/-! ## The opening -/

/-- Prefixes, REX and opcode. -/
structure Opening where
  legacy : List UInt8
  rex : Option UInt8
  opcode : Opcode

namespace Opening

def toBytes (o : Opening) : List UInt8 :=
  o.legacy ++ o.rex.toList ++ o.opcode.bytes

/-- Each byte is what reading from the left takes it for: a one-byte opcode is not the escape, and
without REX in front it is no prefix byte either. -/
structure IsRead (o : Opening) : Prop where
  legacy_isByte : ∀ b ∈ o.legacy, Prefix.isByte b = true
  rex_isRexByte : ∀ b ∈ o.rex, isRexByte b = true
  opcode_isRead :
    (∃ b, o.opcode = .ofByte b ∧ b ≠ Opcode.escape ∧
      (o.rex = none → Prefix.isByte b = false ∧ isRexByte b = false)) ∨
    ∃ b, o.opcode = .ofEscaped b

theorem IsRead.isEncodable {o : Opening} (h : o.IsRead) : o.opcode.IsEncodable := by
  rcases h.opcode_isRead with ⟨b, hb, _⟩ | ⟨b, hb⟩
  · exact ⟨b, Or.inl hb⟩
  · exact ⟨b, Or.inr hb⟩

/-- The opcodes with a shape are among those that are read back. -/
theorem isRead_of_shape {o : Opening} (hlegacy : ∀ b ∈ o.legacy, Prefix.isByte b = true)
    (hrex : ∀ b ∈ o.rex, isRexByte b = true) (hop : o.opcode.IsEncodable)
    (hshape : o.opcode.shape?.isSome = true) : o.IsRead := by
  refine ⟨hlegacy, hrex, ?_⟩
  rcases hop with ⟨b, hb | hb⟩
  · have hsep := Opcode.ofByte_of_shape (b := b) (hb ▸ hshape)
    exact Or.inl ⟨b, hb, hsep.2.2, fun _ => ⟨hsep.1, hsep.2.1⟩⟩
  · exact Or.inr ⟨b, hb⟩

end Opening

/-- The first stage of reading. -/
def readOpening (bs : List UInt8) : Except Fault (Opening × List UInt8) := do
  let (rex, rest) ← readRex (bs.dropWhile Prefix.isByte)
  let (opcode, rest) ← readOpcode rest
  return (⟨bs.takeWhile Prefix.isByte, rex, opcode⟩, rest)

theorem readOpcode_eq_ok_iff {bs rest : List UInt8} {op : Opcode} :
    readOpcode bs = .ok (op, rest) ↔
      ((∃ b, op = .ofByte b ∧ b ≠ Opcode.escape) ∨ ∃ b, op = .ofEscaped b) ∧
        bs = op.bytes ++ rest := by
  constructor
  · intro h
    cases bs with
    | nil => simp [readOpcode] at h
    | cons b bs =>
      by_cases hb : b = Opcode.escape
      · cases bs with
        | nil => simp [readOpcode, hb] at h
        | cons c cs =>
          have hres : Opcode.ofEscaped c = op ∧ cs = rest := by simpa [readOpcode, hb] using h
          rcases hres with ⟨rfl, rfl⟩
          exact ⟨Or.inr ⟨c, rfl⟩, by simp [Opcode.bytes_ofEscaped, hb]⟩
      · have hres : Opcode.ofByte b = op ∧ bs = rest := by simpa [readOpcode, hb] using h
        rcases hres with ⟨rfl, rfl⟩
        exact ⟨Or.inl ⟨b, rfl, hb⟩, by simp [Opcode.bytes_ofByte]⟩
  · rintro ⟨⟨b, rfl, hb⟩ | ⟨b, rfl⟩, rfl⟩
    · simp [readOpcode, Opcode.bytes_ofByte, hb]
    · simp [readOpcode, Opcode.bytes_ofEscaped]

theorem readRex_of_rex {b : UInt8} (h : isRexByte b = true) (bs : List UInt8) :
    readRex (b :: bs) = .ok (some b, bs) := by
  simp [readRex, h]

theorem readRex_of_not_rex {b : UInt8} (h : isRexByte b = false) (bs : List UInt8) :
    readRex (b :: bs) = .ok (none, b :: bs) := by
  simp [readRex, h]

/-- No REX byte is a legacy prefix. -/
theorem isByte_of_isRexByte {b : UInt8} (h : isRexByte b = true) : Prefix.isByte b = false := by
  revert b
  apply forall_byte
  decide +kernel

theorem isRead_of_readOpening {bs rest : List UInt8} {o : Opening}
    (h : readOpening bs = .ok (o, rest)) : o.IsRead ∧ bs = o.toBytes ++ rest := by
  rcases Except.bind_eq_ok_iff.1 h with ⟨⟨rex, r₁⟩, hrex, h⟩
  rcases Except.bind_eq_ok_iff.1 h with ⟨⟨op, r₂⟩, hop, h⟩
  have hres : (⟨bs.takeWhile Prefix.isByte, rex, op⟩ : Opening) = o ∧ r₂ = rest := by
    simpa [pure, Except.pure] using h
  rcases hres with ⟨rfl, rfl⟩
  rcases readOpcode_eq_ok_iff.1 hop with ⟨hform, hr₁⟩
  have hlegacy : ∀ b ∈ bs.takeWhile Prefix.isByte, Prefix.isByte b = true :=
    fun b hb => List.all_eq_true.1 List.all_takeWhile b hb
  have hsplit : bs.takeWhile Prefix.isByte ++ bs.dropWhile Prefix.isByte = bs :=
    List.takeWhile_append_dropWhile
  have hhead := List.head?_dropWhile_not Prefix.isByte bs
  -- The byte behind the legacy prefixes decides whether there is a REX byte.
  cases hdrop : bs.dropWhile Prefix.isByte with
  | nil => simp [hdrop, readRex] at hrex
  | cons b tail =>
    rw [hdrop] at hsplit hhead hrex
    cases hb : isRexByte b with
    | true =>
      rw [readRex_of_rex hb] at hrex
      cases hrex
      refine ⟨⟨hlegacy, by simpa using hb, ?_⟩, hsplit.symm.trans ?_⟩
      · rcases hform with ⟨c, hc, hne⟩ | hc
        · exact Or.inl ⟨c, hc, hne, by simp⟩
        · exact Or.inr hc
      · simp [Opening.toBytes, hr₁]
    | false =>
      rw [readRex_of_not_rex hb] at hrex
      cases hrex
      refine ⟨⟨hlegacy, by simp, ?_⟩, hsplit.symm.trans ?_⟩
      · rcases hform with ⟨c, rfl, hne⟩ | hc
        · have hbc : b = c := by
            rw [Opcode.bytes_ofByte] at hr₁
            exact (List.cons.inj hr₁).1
          exact Or.inl ⟨c, rfl, hne, fun _ => hbc ▸ ⟨hhead, hb⟩⟩
        · exact Or.inr hc
      · simp [Opening.toBytes, hr₁]

theorem readOpening_toBytes {o : Opening} (h : o.IsRead) (rest : List UInt8) :
    readOpening (o.toBytes ++ rest) = .ok (o, rest) := by
  rcases o with ⟨legacy, rex, op⟩
  rcases h with ⟨hlegacy, hrex, hform⟩
  have hop : readOpcode (op.bytes ++ rest) = .ok (op, rest) := by
    refine readOpcode_eq_ok_iff.2 ⟨?_, rfl⟩
    rcases hform with ⟨b, hb, hne, _⟩ | hb
    · exact Or.inl ⟨b, hb, hne⟩
    · exact Or.inr hb
  -- Everything behind the legacy prefixes begins with a byte that is none.
  have htail : ∃ b tail, rex.toList ++ op.bytes ++ rest = b :: tail ∧ Prefix.isByte b = false ∧
      readRex (b :: tail) = .ok (rex, op.bytes ++ rest) := by
    cases rex with
    | some r =>
      have hr : isRexByte r = true := hrex r rfl
      exact ⟨r, op.bytes ++ rest, rfl, isByte_of_isRexByte hr, readRex_of_rex hr _⟩
    | none =>
      rcases hform with ⟨b, rfl, _, hnone⟩ | ⟨b, rfl⟩
      · rcases hnone rfl with ⟨hbyte, hnot⟩
        refine ⟨b, rest, by simp [Opcode.bytes_ofByte], hbyte, ?_⟩
        rw [readRex_of_not_rex hnot, Opcode.bytes_ofByte]
        rfl
      · refine ⟨Opcode.escape, b :: rest, by simp [Opcode.bytes_ofEscaped],
          Prefix.isByte_escape, ?_⟩
        rw [readRex_of_not_rex isRexByte_escape, Opcode.bytes_ofEscaped]
        rfl
  rcases htail with ⟨b, tail, heq, hbyte, hread⟩
  have hbytes : Opening.toBytes ⟨legacy, rex, op⟩ ++ rest = legacy ++ b :: tail := by
    rw [← heq]
    simp [Opening.toBytes]
  -- So the run of prefixes ends where it should, and the other two readers follow.
  have htake : (legacy ++ b :: tail).takeWhile Prefix.isByte = legacy := by
    rw [List.takeWhile_append_of_pos hlegacy]
    simp [hbyte]
  have hdrop : (legacy ++ b :: tail).dropWhile Prefix.isByte = b :: tail := by
    rw [List.dropWhile_append_of_pos hlegacy]
    simp [hbyte]
  simp only [readOpening, hbytes, htake, hdrop, hread, bind, Except.bind, hop]
  rfl

theorem readOpening_eq_ok_iff {bs rest : List UInt8} {o : Opening} :
    readOpening bs = .ok (o, rest) ↔ o.IsRead ∧ bs = o.toBytes ++ rest := by
  constructor
  · exact isRead_of_readOpening
  · rintro ⟨h, rfl⟩
    exact readOpening_toBytes h rest

theorem readOpening_ne_unsupported {bs : List UInt8} {op : Opcode} :
    readOpening bs ≠ .error (.unsupported op) := by
  intro h
  -- Nothing here looks the opcode up: only bytes can be missing.
  rcases Except.bind_eq_error_iff.1 h with h | ⟨⟨rex, r₁⟩, _, h⟩
  · cases hdrop : bs.dropWhile Prefix.isByte with
    | nil => simp [hdrop, readRex] at h
    | cons b tail => cases hb : isRexByte b <;> simp [hdrop, readRex, hb] at h
  · rcases Except.bind_eq_error_iff.1 h with h | ⟨⟨op', r₂⟩, _, h⟩
    · cases r₁ with
      | nil => simp [readOpcode] at h
      | cons b tail =>
        by_cases hb : b = Opcode.escape
        · cases tail <;> simp [readOpcode, hb] at h
        · simp [readOpcode, hb] at h
    · simp [pure, Except.pure] at h

/-! ## The fields behind the opening -/

def opening (e : Encoding) : Opening :=
  ⟨e.legacy, e.rex, e.opcode⟩

/-- The bytes behind the opening. -/
def fieldBytes (e : Encoding) : List UInt8 :=
  e.modrm.toList.map ModRM.raw ++ e.sib.toList ++ e.displacement ++ e.operand

theorem toBytes_eq (e : Encoding) : e.toBytes = e.opening.toBytes ++ e.fieldBytes := by
  simp [toBytes, opening, Opening.toBytes, fieldBytes]

/-- The fields behind the opening are there, and as wide, as the others ask for. -/
structure FieldsFit (e : Encoding) (shape : Shape) : Prop where
  modrm_isSome : e.modrm.isSome = shape.hasModRM
  sib_isSome : e.sib.isSome = e.modrm.any ModRM.needsSib
  displacement_length : e.displacement.length = displacementWidth e.modrm e.sib
  operand_length : e.operand.length = operandWidth e.legacy e.rex e.modrm shape

theorem wellFormed_iff {e : Encoding} {shape : Shape} :
    e.WellFormed shape ↔
      e.opening.IsRead ∧ e.opcode.shape? = some shape ∧ e.FieldsFit shape := by
  constructor
  · intro h
    have hop : e.opening.opcode.IsEncodable := Opcode.isEncodable_iff.2 h.opcode_isByte
    have hsome : e.opening.opcode.shape?.isSome = true := by
      simpa [opening] using congrArg Option.isSome h.shape_eq
    refine ⟨Opening.isRead_of_shape h.legacy_isByte h.rex_isRexByte hop hsome, h.shape_eq, ?_⟩
    exact ⟨h.modrm_isSome, h.sib_isSome, h.displacement_length, h.operand_length⟩
  · rintro ⟨hopen, hshape, hfit⟩
    refine ⟨hopen.legacy_isByte, hopen.rex_isRexByte, ?_, hshape, hfit.modrm_isSome,
      hfit.sib_isSome, hfit.displacement_length, hfit.operand_length⟩
    exact Opcode.isEncodable_iff.1 hopen.isEncodable

/-- The second stage of reading. -/
def readFields (o : Opening) (shape : Shape) (bs : List UInt8) :
    Except Fault (Encoding × List UInt8) := do
  let (modrm, bs) ← readByteIf shape.hasModRM bs
  let modrm := modrm.map ModRM.mk
  let (sib, bs) ← readByteIf (modrm.any ModRM.needsSib) bs
  let (displacement, bs) ← readBytes (displacementWidth modrm sib) bs
  let (operand, bs) ← readBytes (operandWidth o.legacy o.rex modrm shape) bs
  return (⟨o.legacy, o.rex, o.opcode, modrm, sib, displacement, operand⟩, bs)

theorem map_mk_map_raw (m : Option ModRM) : (m.map ModRM.raw).map ModRM.mk = m := by
  cases m <;> rfl

theorem fit_of_readFields {o : Opening} {shape : Shape} {bs rest : List UInt8} {e : Encoding}
    (h : readFields o shape bs = .ok (e, rest)) :
    e.opening = o ∧ e.FieldsFit shape ∧ bs = e.fieldBytes ++ rest := by
  rcases Except.bind_eq_ok_iff.1 h with ⟨⟨modrm, r₁⟩, hmodrm, h⟩
  rcases Except.bind_eq_ok_iff.1 h with ⟨⟨sib, r₂⟩, hsib, h⟩
  rcases Except.bind_eq_ok_iff.1 h with ⟨⟨displacement, r₃⟩, hdisp, h⟩
  rcases Except.bind_eq_ok_iff.1 h with ⟨⟨operand, r₄⟩, hoper, h⟩
  have hres : (⟨o.legacy, o.rex, o.opcode, modrm.map ModRM.mk, sib, displacement, operand⟩ :
      Encoding) = e ∧ r₄ = rest := by
    simpa [pure, Except.pure] using h
  rcases hres with ⟨rfl, rfl⟩
  rcases readByteIf_eq_ok_iff.1 hmodrm with ⟨hm, rfl⟩
  rcases readByteIf_eq_ok_iff.1 hsib with ⟨hs, rfl⟩
  rcases readBytes_eq_ok_iff.1 hdisp with ⟨hd, rfl⟩
  rcases readBytes_eq_ok_iff.1 hoper with ⟨ho, rfl⟩
  refine ⟨rfl, ⟨by simpa using hm, hs, hd, ho⟩, ?_⟩
  have hraw : (modrm.map ModRM.mk).toList.map ModRM.raw = modrm.toList := by
    cases modrm <;> rfl
  simp only [fieldBytes, hraw, List.append_assoc]

theorem readFields_fieldBytes {shape : Shape} {e : Encoding} (h : e.FieldsFit shape)
    (rest : List UInt8) :
    readFields e.opening shape (e.fieldBytes ++ rest) = .ok (e, rest) := by
  rcases e with ⟨legacy, rex, op, modrm, sib, displacement, operand⟩
  rcases h with ⟨hm, hs, hd, ho⟩
  have hmodrm : readByteIf shape.hasModRM
      (fieldBytes ⟨legacy, rex, op, modrm, sib, displacement, operand⟩ ++ rest) =
        .ok (modrm.map ModRM.raw, sib.toList ++ (displacement ++ (operand ++ rest))) := by
    refine readByteIf_eq_ok_iff.2 ⟨by simpa using hm, ?_⟩
    cases modrm <;> simp [fieldBytes]
  have hsib : readByteIf (modrm.any ModRM.needsSib)
      (sib.toList ++ (displacement ++ (operand ++ rest))) =
        .ok (sib, displacement ++ (operand ++ rest)) :=
    readByteIf_eq_ok_iff.2 ⟨hs, rfl⟩
  have hdisp : readBytes (displacementWidth modrm sib) (displacement ++ (operand ++ rest)) =
      .ok (displacement, operand ++ rest) :=
    readBytes_eq_ok_iff.2 ⟨hd, rfl⟩
  have hoper : readBytes (operandWidth legacy rex modrm shape) (operand ++ rest) =
      .ok (operand, rest) :=
    readBytes_eq_ok_iff.2 ⟨ho, rfl⟩
  -- Each reader leaves exactly what the next one is about.
  refine Except.bind_eq_ok_iff.2 ⟨_, hmodrm, ?_⟩
  simp only [map_mk_map_raw]
  refine Except.bind_eq_ok_iff.2 ⟨_, hsib, ?_⟩
  refine Except.bind_eq_ok_iff.2 ⟨_, hdisp, ?_⟩
  exact Except.bind_eq_ok_iff.2 ⟨_, hoper, rfl⟩

theorem readFields_ne_unsupported {o : Opening} {shape : Shape} {bs : List UInt8} {op : Opcode} :
    readFields o shape bs ≠ .error (.unsupported op) := by
  intro h
  rcases Except.bind_eq_error_iff.1 h with h | ⟨_, _, h⟩
  · exact readByteIf_ne_unsupported h
  rcases Except.bind_eq_error_iff.1 h with h | ⟨_, _, h⟩
  · exact readByteIf_ne_unsupported h
  rcases Except.bind_eq_error_iff.1 h with h | ⟨_, _, h⟩
  · exact readBytes_ne_unsupported h
  rcases Except.bind_eq_error_iff.1 h with h | ⟨_, _, h⟩
  · exact readBytes_ne_unsupported h
  · simp [pure, Except.pure] at h

/-! ## Reading as a whole -/

/-- What happens behind the opening. -/
def readBehind (o : Opening) (bs : List UInt8) : Except Fault (Encoding × List UInt8) :=
  match o.opcode.shape? with
  | none => .error (.unsupported o.opcode)
  | some shape => readFields o shape bs

theorem read_eq (bs : List UInt8) :
    read bs = (readOpening bs >>= fun r => readBehind r.1 r.2) := by
  unfold read readOpening
  cases hrex : readRex (bs.dropWhile Prefix.isByte) with
  | error f => rfl
  | ok r =>
    cases hop : readOpcode r.2 with
    | error f => simp [bind, Except.bind, hop]
    | ok s =>
      cases hshape : s.1.shape? with
      | none => simp [bind, Except.bind, hop, pure, Except.pure, readBehind, hshape]
      | some shape =>
        simp only [bind, Except.bind, hop, pure, Except.pure, readBehind, hshape]
        rfl

theorem read_eq_ok_iff {bs rest : List UInt8} {e : Encoding} :
    read bs = .ok (e, rest) ↔ (∃ shape, e.WellFormed shape) ∧ bs = e.toBytes ++ rest := by
  rw [read_eq]
  constructor
  · intro h
    rcases Except.bind_eq_ok_iff.1 h with ⟨⟨o, r⟩, hopen, hbehind⟩
    rcases readOpening_eq_ok_iff.1 hopen with ⟨hread, rfl⟩
    cases hshape : o.opcode.shape? with
    | none => simp [readBehind, hshape] at hbehind
    | some shape =>
      have hfields : readFields o shape r = .ok (e, rest) := by
        simpa [readBehind, hshape] using hbehind
      rcases fit_of_readFields hfields with ⟨rfl, hfit, rfl⟩
      exact ⟨⟨shape, wellFormed_iff.2 ⟨hread, hshape, hfit⟩⟩, by simp [toBytes_eq]⟩
  · rintro ⟨⟨shape, h⟩, rfl⟩
    rcases wellFormed_iff.1 h with ⟨hread, hshape, hfit⟩
    have hopen : readOpening (e.toBytes ++ rest) = .ok (e.opening, e.fieldBytes ++ rest) := by
      rw [toBytes_eq, List.append_assoc]
      exact readOpening_toBytes hread _
    refine Except.bind_eq_ok_iff.2 ⟨_, hopen, ?_⟩
    have hshape' : e.opening.opcode.shape? = some shape := hshape
    simpa [readBehind, hshape'] using readFields_fieldBytes hfit rest

theorem read_eq_unsupported_iff {bs : List UInt8} {op : Opcode} :
    read bs = .error (.unsupported op) ↔
      ∃ (o : Opening) (rest : List UInt8),
        o.IsRead ∧ o.opcode = op ∧ op.shape? = none ∧ bs = o.toBytes ++ rest := by
  rw [read_eq]
  constructor
  · intro h
    rcases Except.bind_eq_error_iff.1 h with hfail | ⟨⟨o, r⟩, hopen, hbehind⟩
    · exact absurd hfail readOpening_ne_unsupported
    · rcases readOpening_eq_ok_iff.1 hopen with ⟨hread, rfl⟩
      cases hshape : o.opcode.shape? with
      | none =>
        have hop : o.opcode = op := by simpa [readBehind, hshape] using hbehind
        exact ⟨o, r, hread, hop, hop ▸ hshape, rfl⟩
      | some shape =>
        have hfields : readFields o shape r = .error (.unsupported op) := by
          simpa [readBehind, hshape] using hbehind
        exact absurd hfields readFields_ne_unsupported
  · rintro ⟨o, rest, hread, rfl, hshape, rfl⟩
    refine Except.bind_eq_error_iff.2 (Or.inr ⟨_, readOpening_toBytes hread rest, ?_⟩)
    simp [readBehind, hshape]

/-! ## More and fewer bytes -/

theorem read_append_of_ok {bs rest : List UInt8} {e : Encoding} (h : read bs = .ok (e, rest))
    (more : List UInt8) : read (bs ++ more) = .ok (e, rest ++ more) := by
  rcases read_eq_ok_iff.1 h with ⟨hwf, rfl⟩
  exact read_eq_ok_iff.2 ⟨hwf, List.append_assoc _ _ _⟩

theorem read_append_of_unsupported {bs : List UInt8} {op : Opcode}
    (h : read bs = .error (.unsupported op)) (more : List UInt8) :
    read (bs ++ more) = .error (.unsupported op) := by
  rcases read_eq_unsupported_iff.1 h with ⟨o, rest, hread, hop, hshape, rfl⟩
  exact read_eq_unsupported_iff.2
    ⟨o, rest ++ more, hread, hop, hshape, List.append_assoc _ _ _⟩

/-- A proper front part of an encoding is neither an encoding nor refused for its opcode: the
answer would carry over to the whole. -/
theorem read_of_cut {e : Encoding} {shape : Shape} (h : e.WellFormed shape) {k : Nat}
    (hk : k < e.toBytes.length) : read (e.toBytes.take k) = .error .ranOut := by
  have hsplit : e.toBytes.take k ++ e.toBytes.drop k = e.toBytes := List.take_append_drop k _
  have hwhole : read e.toBytes = .ok (e, []) := read_eq_ok_iff.2 ⟨⟨shape, h⟩, by simp⟩
  cases hcut : read (e.toBytes.take k) with
  | ok r =>
    exfalso
    rcases r with ⟨e', rest⟩
    -- The whole would leave the other bytes over, but it leaves none.
    have hmore := read_append_of_ok hcut (e.toBytes.drop k)
    rw [hsplit, hwhole] at hmore
    have hnil : [] = rest ++ e.toBytes.drop k := (Prod.mk.inj (Except.ok.inj hmore)).2
    have hdrop : e.toBytes.drop k = [] := (List.append_eq_nil_iff.1 hnil.symm).2
    have hlen : e.toBytes.length ≤ k := List.drop_eq_nil_iff.1 hdrop
    omega
  | error f =>
    cases f with
    | ranOut => rfl
    | unsupported op =>
      exfalso
      have hmore := read_append_of_unsupported hcut (e.toBytes.drop k)
      rw [hsplit, hwhole] at hmore
      cases hmore

end CodeSurvey.Encoding
