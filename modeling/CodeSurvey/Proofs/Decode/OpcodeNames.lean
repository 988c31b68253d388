import CodeSurvey.Proofs.Decode.Kinds

/-!
# Names of opcodes

The name of an instruction in a listing, as a table over opcode bytes beside that of kinds. The
table asks for the opcode and the ModRM field `reg` and for nothing else.

* `InsnKind.names` : the names that go with a kind;
* `Opcode.NamedLike op reg k` : the table, one constructor for each row of `Insn.HasKind`;
* `Opcode.kindRows` : the rows of the looked-up tables that have such a name;
* `Opcode.mnemonic_mem_names_iff` : the table is what `Opcode.mnemonic` looks up;
* `Opcode.mnemonic_eq_unnamed_iff` : the opcodes that can be decoded and have no name.
-/

namespace CodeSurvey

/-! ## Names -/

/-- The names that go with a kind. Calls have the same two, whether they are relative or not. -/
def InsnKind.names : InsnKind → List String
  | .nearCall | .indirectCall => ["call", "call far"]
  | .jump => ["jmp", "jmp far"]
  | .conditionalJump => ["jcc"]
  | .lea => ["lea"]
  | .landingPad => ["endbr64", "endbr32"]
  | .nop => ["nop"]
  | .int3 => ["int3"]
  | .ret => ["ret"]
  | .other => []

theorem InsnKind.names_eq_iff {k k' : InsnKind} :
    k.names = k'.names ↔ k = k' ∨ (k.isCall = true ∧ k'.isCall = true) := by
  cases k <;> cases k' <;> decide

/-- Kinds that share a name share all of them. -/
theorem InsnKind.names_eq_of_mem {k k' : InsnKind} {name : String} (h : name ∈ k.names)
    (h' : name ∈ k'.names) : k'.names = k.names := by
  have hall : ∀ n ∈ k.names, n ∈ k'.names → k'.names = k.names := by
    cases k <;> cases k' <;> decide
  exact hall name h h'

/-- Whatever the table says, the row that is found covers the byte. -/
theorem OpcodeMap.exists_row_of_find? {α : Type} {m : OpcodeMap α} {b : UInt8} {x : α}
    (h : m.find? b = some x) :
    ∃ r ∈ m, r.first ≤ b.toNat ∧ b.toNat ≤ r.last ∧ r.entry = x := by
  rcases Option.map_eq_some_iff.1 h with ⟨r, hr, rfl⟩
  have hcovers : r.first ≤ b.toNat ∧ b.toNat ≤ r.last := by simpa using List.find?_some hr
  exact ⟨r, List.mem_of_find?_eq_some hr, hcovers.1, hcovers.2, rfl⟩

namespace Opcode

/-- What an opcode and a field `reg` have to be for a name that goes with a kind. -/
inductive NamedLike (op : Opcode) (reg : Nat) : InsnKind → Prop where
  | nearCall (byte : op = .ofByte 0xe8) : NamedLike op reg .nearCall
  | jump (byte : op = .ofByte 0xe9 ∨ op = .ofByte 0xeb) : NamedLike op reg .jump
  | conditionalJump (byte : op.IsShortConditional ∨ op.IsNearConditional) :
      NamedLike op reg .conditionalJump
  | lea (byte : op = .ofByte 0x8d) : NamedLike op reg .lea
  | hint (byte : op = .ofEscaped 0x1e) : NamedLike op reg .nop
  | nopRm (byte : op = .ofEscaped 0x1f) : NamedLike op reg .nop
  | nop (byte : op = .ofByte 0x90) : NamedLike op reg .nop
  | int3 (byte : op = .ofByte 0xcc) : NamedLike op reg .int3
  | ret (byte : op = .ofByte 0xc2 ∨ op = .ofByte 0xc3) : NamedLike op reg .ret
  | indirectCall (byte : op = .ofByte 0xff) (field : reg = 2 ∨ reg = 3) :
      NamedLike op reg .indirectCall
  | indirectJump (byte : op = .ofByte 0xff) (field : reg = 4 ∨ reg = 5) : NamedLike op reg .jump

variable {op : Opcode} {reg : Nat} {k : InsnKind} {b : UInt8}

/-! ## Looking up -/

theorem naming_ofByte (b : UInt8) :
    (ofByte b).naming =
      if isArithmeticByte b then .always (arithmeticNames.getD (b.toNat / 8) unnamed)
      else (oneByteNames.find? b).getD (.always unnamed) := by
  have hone : (ofByte b).isTwoByte = false := by
    revert b
    apply forall_byte
    decide +kernel
  rw [naming, hone, low_ofByte]
  rfl

theorem naming_ofEscaped (b : UInt8) :
    (ofEscaped b).naming = (twoByteNames.find? b).getD (.always unnamed) := by
  have htwo : (ofEscaped b).isTwoByte = true := by
    revert b
    apply forall_byte
    decide +kernel
  rw [naming, htwo, low_ofEscaped]
  rfl

theorem pick_getD {found : Option Naming} (h : (found.getD (.always unnamed)).pick reg ≠ unnamed) :
    ∃ n, found = some n ∧ n.pick reg = (found.getD (.always unnamed)).pick reg := by
  cases found with
  | none => exact absurd rfl h
  | some n => exact ⟨n, rfl, rfl⟩

/-- All names of the kinds. -/
def kindNames : List String :=
  ["call", "call far", "jmp", "jmp far", "jcc", "lea", "endbr64", "endbr32", "nop", "int3", "ret"]

theorem mem_kindNames {name : String} (h : name ∈ k.names) : name ∈ kindNames := by
  have hall : ∀ n ∈ k.names, n ∈ kindNames := by
    cases k <;> decide
  exact hall name h

/-- The rows of a table that can give the name of a kind. -/
def kindRows (m : OpcodeMap Naming) : OpcodeMap Naming :=
  m.filter fun r => (List.range 8).any fun reg => kindNames.contains (r.entry.pick reg)

theorem kindRows_oneByteNames :
    kindRows oneByteNames =
      [⟨0x70, 0x7f, .always "jcc"⟩, ⟨0x8d, 0x8d, .always "lea"⟩, ⟨0x90, 0x90, .always "nop"⟩,
       ⟨0xc2, 0xc3, .always "ret"⟩, ⟨0xcc, 0xcc, .always "int3"⟩, ⟨0xe8, 0xe8, .always "call"⟩,
       ⟨0xe9, 0xe9, .always "jmp"⟩, ⟨0xeb, 0xeb, .always "jmp"⟩,
       ⟨0xff, 0xff, .byReg ["inc", "dec", "call", "call far", "jmp", "jmp far", "push"]⟩] := by
  rfl

theorem kindRows_twoByteNames :
    kindRows twoByteNames = [⟨0x1e, 0x1f, .always "nop"⟩, ⟨0x80, 0x8f, .always "jcc"⟩] := by
  rfl

theorem mem_kindRows {m : OpcodeMap Naming} {r : OpcodeRow Naming} (hr : r ∈ m) (hreg : reg < 8)
    (h : r.entry.pick reg ∈ k.names) : r ∈ kindRows m := by
  refine List.mem_filter.2 ⟨hr, List.any_eq_true.2 ⟨reg, List.mem_range.2 hreg, ?_⟩⟩
  exact List.contains_iff_mem.2 (mem_kindNames h)

/-- The name of a kind is in one of the rows that have such names. -/
theorem exists_kindRow {m : OpcodeMap Naming} (hreg : reg < 8)
    (h : ((m.find? b).getD (.always unnamed)).pick reg ∈ k.names) :
    ∃ r ∈ kindRows m, r.first ≤ b.toNat ∧ b.toNat ≤ r.last ∧ r.entry.pick reg ∈ k.names := by
  have hne : ((m.find? b).getD (.always unnamed)).pick reg ≠ unnamed := by
    intro hunnamed
    rw [hunnamed] at h
    exact absurd (mem_kindNames h) (by decide)
  rcases pick_getD hne with ⟨n, hfound, hpick⟩
  rcases OpcodeMap.exists_row_of_find? hfound with ⟨r, hr, hlow, hhigh, rfl⟩
  rw [← hpick] at h
  exact ⟨r, mem_kindRows hr hreg h, hlow, hhigh, h⟩

/-- No arithmetic operation has the name of a kind. -/
theorem arithmeticName_not_mem_names (n : Nat) : arithmeticNames.getD n unnamed ∉ k.names := by
  have hall : ∀ name ∈ unnamed :: arithmeticNames, name ∉ kindNames := by decide
  intro h
  refine hall _ ?_ (mem_kindNames h)
  cases hn : arithmeticNames[n]? with
  | none => simp [List.getD_eq_getElem?_getD, hn]
  | some name => simpa [List.getD_eq_getElem?_getD, hn] using .inr (List.mem_of_getElem? hn)

theorem eq_of_toNat {n : Nat} (hlow : n ≤ b.toNat) (hhigh : b.toNat ≤ n) : b = .ofNat n := by
  have hb : b.toNat = n := Nat.le_antisymm hhigh hlow
  rw [← hb, UInt8.ofNat_toNat]

/-- Of the eight instructions under one byte, two are calls and two are jumps. -/
theorem group5_pick {names : List String}
    (hnames : names = ["inc", "dec", "call", "call far", "jmp", "jmp far", "push"]) (hreg : reg < 8)
    (h : (Naming.byReg names).pick reg ∈ kindNames) :
    ((reg = 2 ∨ reg = 3) ∧ (Naming.byReg names).pick reg ∈ InsnKind.indirectCall.names) ∨
      ((reg = 4 ∨ reg = 5) ∧ (Naming.byReg names).pick reg ∈ InsnKind.jump.names) := by
  subst hnames
  revert reg
  decide

/-- A one-byte opcode with the name of a kind is one of a row. -/
theorem exists_namedLike_ofByte (hreg : reg < 8) (h : (ofByte b).mnemonic reg ∈ k.names) :
    ∃ k', k'.names = k.names ∧ (ofByte b).NamedLike reg k' := by
  rw [mnemonic, naming_ofByte] at h
  split at h
  · exact absurd h (arithmeticName_not_mem_names _)
  · rcases exists_kindRow hreg h with ⟨r, hr, hlow, hhigh, hname⟩
    have hsame {k' : InsnKind} (hmem : r.entry.pick reg ∈ k'.names) : k'.names = k.names :=
      InsnKind.names_eq_of_mem hname hmem
    rw [kindRows_oneByteNames] at hr
    simp only [List.mem_cons, List.not_mem_nil, or_false] at hr
    -- Row by row, in the order of the table.
    rcases hr with rfl | rfl | rfl | rfl | rfl | rfl | rfl | rfl | rfl
    · have hshort : (ofByte b).IsShortConditional := ⟨b, rfl, hlow, hhigh⟩
      exact ⟨.conditionalJump, hsame List.mem_cons_self, .conditionalJump (.inl hshort)⟩
    · cases eq_of_toNat hlow hhigh
      exact ⟨.lea, hsame List.mem_cons_self, .lea rfl⟩
    · cases eq_of_toNat hlow hhigh
      exact ⟨.nop, hsame List.mem_cons_self, .nop rfl⟩
    · -- The one row of two bytes that are told apart.
      refine ⟨.ret, hsame List.mem_cons_self, .ret ?_⟩
      rcases Nat.lt_or_ge 0xc2 b.toNat with hbehind | hfirst
      · exact .inr (congrArg ofByte (eq_of_toNat hbehind hhigh))
      · exact .inl (congrArg ofByte (eq_of_toNat hlow hfirst))
    · cases eq_of_toNat hlow hhigh
      exact ⟨.int3, hsame List.mem_cons_self, .int3 rfl⟩
    · cases eq_of_toNat hlow hhigh
      exact ⟨.nearCall, hsame List.mem_cons_self, .nearCall rfl⟩
    · cases eq_of_toNat hlow hhigh
      exact ⟨.jump, hsame List.mem_cons_self, .jump (.inl rfl)⟩
    · cases eq_of_toNat hlow hhigh
      exact ⟨.jump, hsame List.mem_cons_self, .jump (.inr rfl)⟩
    · cases eq_of_toNat hlow hhigh
      rcases group5_pick rfl hreg (mem_kindNames hname) with ⟨hfield, hmem⟩ | ⟨hfield, hmem⟩
      · exact ⟨.indirectCall, hsame hmem, .indirectCall rfl hfield⟩
      · exact ⟨.jump, hsame hmem, .indirectJump rfl hfield⟩

theorem exists_namedLike_ofEscaped (hreg : reg < 8) (h : (ofEscaped b).mnemonic reg ∈ k.names) :
    ∃ k', k'.names = k.names ∧ (ofEscaped b).NamedLike reg k' := by
  rw [mnemonic, naming_ofEscaped] at h
  rcases exists_kindRow hreg h with ⟨r, hr, hlow, hhigh, hname⟩
  have hsame {k' : InsnKind} (hmem : r.entry.pick reg ∈ k'.names) : k'.names = k.names :=
    InsnKind.names_eq_of_mem hname hmem
  rw [kindRows_twoByteNames] at hr
  simp only [List.mem_cons, List.not_mem_nil, or_false] at hr
  rcases hr with rfl | rfl
  · refine ⟨.nop, hsame List.mem_cons_self, ?_⟩
    rcases Nat.lt_or_ge 0x1e b.toNat with hbehind | hfirst
    · exact .nopRm (congrArg ofEscaped (eq_of_toNat hbehind hhigh))
    · exact .hint (congrArg ofEscaped (eq_of_toNat hlow hfirst))
  · have hnear : (ofEscaped b).IsNearConditional := ⟨b, rfl, hlow, hhigh⟩
    exact ⟨.conditionalJump, hsame List.mem_cons_self, .conditionalJump (.inr hnear)⟩

/-- A conditional jump has one name, checked for every byte of its two rows. -/
theorem mnemonic_of_conditionalJump (h : op.IsShortConditional ∨ op.IsNearConditional)
    (hreg : reg < 8) : op.mnemonic reg = "jcc" := by
  have hshort : ∀ b : UInt8, 0x70 ≤ b.toNat ∧ b.toNat ≤ 0x7f →
      ∀ reg < 8, (ofByte b).mnemonic reg = "jcc" := by
    apply forall_byte
    decide +kernel
  have hnear : ∀ b : UInt8, 0x80 ≤ b.toNat ∧ b.toNat ≤ 0x8f →
      ∀ reg < 8, (ofEscaped b).mnemonic reg = "jcc" := by
    apply forall_byte
    decide +kernel
  rcases h with ⟨b, rfl, hlow, hhigh⟩ | ⟨b, rfl, hlow, hhigh⟩
  · exact hshort b ⟨hlow, hhigh⟩ reg hreg
  · exact hnear b ⟨hlow, hhigh⟩ reg hreg

theorem NamedLike.mnemonic_mem_names (h : op.NamedLike reg k) (hreg : reg < 8) :
    op.mnemonic reg ∈ k.names := by
  cases h with
  | nearCall byte | lea byte | hint byte | nopRm byte | nop byte | int3 byte =>
    cases byte
    exact List.mem_cons_self
  | jump byte | ret byte =>
    rcases byte with rfl | rfl
    · exact List.mem_cons_self
    · exact List.mem_cons_self
  | conditionalJump byte => exact List.mem_singleton.2 (mnemonic_of_conditionalJump byte hreg)
  | indirectCall byte field | indirectJump byte field =>
    -- The name of a far call or jump comes behind that of a near one.
    cases byte
    rcases field with rfl | rfl
    · exact List.mem_cons_self
    · exact List.mem_cons_of_mem _ List.mem_cons_self

/-- The name of an opcode goes with a kind exactly if the opcode is in a row of it. -/
theorem mnemonic_mem_names_iff (hop : op.IsEncodable) (hreg : reg < 8) :
    op.mnemonic reg ∈ k.names ↔ ∃ k', k'.names = k.names ∧ op.NamedLike reg k' := by
  constructor
  · intro h
    rcases hop with ⟨b, rfl | rfl⟩
    · exact exists_namedLike_ofByte hreg h
    · exact exists_namedLike_ofEscaped hreg h
  · rintro ⟨k', hnames, hnamed⟩
    rw [← hnames]
    exact hnamed.mnemonic_mem_names hreg

/-! ## Opcodes without a name -/

/-- Everything that can be decoded has a row in the tables of names. -/
theorem isSome_find?_of_shape (h : (ofByte b).shape?.isSome = true) :
    isArithmeticByte b = true ∨ (oneByteNames.find? b).isSome = true := by
  revert b
  apply forall_byte
  decide +kernel

theorem isSome_find?_of_escaped_shape (h : (ofEscaped b).shape?.isSome = true) :
    (twoByteNames.find? b).isSome = true := by
  revert b
  apply forall_byte
  decide +kernel

theorem arithmeticName_ne_unnamed (h : isArithmeticByte b = true) :
    arithmeticNames.getD (b.toNat / 8) unnamed ≠ unnamed := by
  revert b
  apply forall_byte
  decide +kernel

/-- So what has no name is left out of a row by its field `reg`. -/
theorem mnemonic_eq_unnamed_iff {shape : Shape} (hop : op.IsEncodable)
    (hshape : op.shape? = some shape) (hreg : reg < 8) :
    op.mnemonic reg = unnamed ↔
      (op = .ofByte 0xfe ∧ 2 ≤ reg) ∨ (op = .ofByte 0xff ∧ reg = 7) := by
  have hone : ∀ r ∈ oneByteNames, ∀ reg < 8, r.entry.pick reg = unnamed →
      (r.first = 0xfe ∧ r.last = 0xfe ∧ 2 ≤ reg) ∨
        (r.first = 0xff ∧ r.last = 0xff ∧ reg = 7) := by
    decide +kernel
  have htwo : ∀ r ∈ twoByteNames, ∀ reg < 8, r.entry.pick reg ≠ unnamed := by decide +kernel
  have hsome : op.shape?.isSome = true := by rw [hshape, Option.isSome_some]
  constructor
  · intro h
    rcases hop with ⟨b, rfl | rfl⟩
    · rw [mnemonic, naming_ofByte] at h
      split at h
      · next harith => exact absurd h (arithmeticName_ne_unnamed harith)
      · next harith =>
        have hrow := (isSome_find?_of_shape hsome).resolve_left harith
        rcases Option.isSome_iff_exists.1 hrow with ⟨n, hn⟩
        rw [hn, Option.getD_some] at h
        rcases OpcodeMap.exists_row_of_find? hn with ⟨r, hr, hlow, hhigh, rfl⟩
        rcases hone r hr reg hreg h with ⟨hfirst, hlast, hfield⟩ | ⟨hfirst, hlast, hfield⟩
        · rw [hfirst] at hlow
          rw [hlast] at hhigh
          exact .inl ⟨congrArg ofByte (eq_of_toNat hlow hhigh), hfield⟩
        · rw [hfirst] at hlow
          rw [hlast] at hhigh
          exact .inr ⟨congrArg ofByte (eq_of_toNat hlow hhigh), hfield⟩
    · rw [mnemonic, naming_ofEscaped] at h
      rcases Option.isSome_iff_exists.1 (isSome_find?_of_escaped_shape hsome) with ⟨n, hn⟩
      rw [hn, Option.getD_some] at h
      rcases OpcodeMap.exists_row_of_find? hn with ⟨r, hr, _, _, rfl⟩
      exact absurd h (htwo r hr reg hreg)
  · have hgroup : ∀ reg < 8, 2 ≤ reg → (ofByte 0xfe).mnemonic reg = unnamed := by decide
    rintro (⟨rfl, hfield⟩ | ⟨rfl, rfl⟩)
    · exact hgroup reg hreg hfield
    · rfl

end Opcode

end CodeSurvey
