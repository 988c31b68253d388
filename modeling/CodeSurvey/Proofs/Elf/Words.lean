import CodeSurvey.Elf.File
import CodeSurvey.Proofs.Encoding.Format

/-!
# Numbers of a file

A field of a file is at most eight bytes long, so what is read from it is a 64-bit word.

* `Elf.FileReader.ReadsWords` : a reader whose link addresses are words;
* `Elf.Layout.lt_of_mem_readFields` : the fields that are read are words;
* `Elf.File.readsWords_read` : so are all link addresses of a file.
-/

namespace CodeSurvey.Elf

/-- Reads class and program headers of a file. -/
abbrev FileReader := List UInt8 → Except FileError File

/-- The link addresses of the program headers that are read are 64-bit words. -/
def FileReader.ReadsWords (read : FileReader) : Prop :=
  ∀ data file, read data = .ok file → ∀ h ∈ file.programHeaders, h.vaddr < 2 ^ 64

namespace Layout

variable {l : Layout} {widths values : List Nat} {bs rest : List UInt8} {n : Nat}

theorem value_lt (l : Layout) (bs : List UInt8) : l.value bs < 256 ^ bs.length := by
  have hlittle := Bytes.little_lt bs
  have hbig := Bytes.little_lt bs.reverse
  rw [List.length_reverse] at hbig
  rw [value]
  split
  · exact hbig
  · exact hlittle

/-- A field of at most eight bytes is a word. -/
theorem value_lt_of_length_le (h : bs.length ≤ 8) : l.value bs < 2 ^ 64 :=
  Nat.lt_of_lt_of_le (l.value_lt bs) (Nat.pow_le_pow_right (by decide) h)

theorem readFields_cons_eq_ok {w : Nat}
    (h : l.readFields (w :: widths) bs = .ok (values, rest)) :
    ∃ field behind tail, field.length = w ∧ bs = field ++ behind ∧
      l.readFields widths behind = .ok (tail, rest) ∧ values = l.value field :: tail := by
  rw [readFields] at h
  split at h
  · cases h
  · next field behind hsplit =>
    rcases Bytes.split?_append hsplit with ⟨hbytes, hlength⟩
    rcases Except.bind_eq_ok_iff.1 h with ⟨⟨tail, rest'⟩, htail, hresult⟩
    cases hresult
    exact ⟨field, behind, tail, hlength, hbytes, htail, rfl⟩

theorem lt_of_mem_readFields (hwidths : ∀ w ∈ widths, w ≤ 8)
    (h : l.readFields widths bs = .ok (values, rest)) : ∀ v ∈ values, v < 2 ^ 64 := by
  induction widths generalizing bs values with
  | nil =>
    cases h
    simp
  | cons w widths ih =>
    rcases readFields_cons_eq_ok h with ⟨field, behind, tail, hlength, _, htail, rfl⟩
    rw [List.forall_mem_cons] at hwidths
    intro v hv
    rcases List.mem_cons.1 hv with rfl | hmem
    · exact value_lt_of_length_le (hlength ▸ hwidths.1)
    · exact ih hwidths.2 htail v hmem

theorem programHeaderWidths_le (l : Layout) : ∀ w ∈ l.programHeaderWidths, w ≤ 8 := by
  rw [programHeaderWidths]
  split
  · decide
  · decide

/-- The link address of a header is one of its fields, whichever class it is of. -/
theorem vaddr_programHeader_lt (hvalues : ∀ v ∈ values, v < 2 ^ 64) :
    (l.programHeader values).vaddr < 2 ^ 64 := by
  have hfield (k : Nat) : values.getD k 0 < 2 ^ 64 := by
    rw [List.getD_eq_getElem?_getD]
    cases hk : values[k]? with
    | none => decide
    | some v => exact hvalues v (List.mem_of_getElem? hk)
  rw [programHeader]
  split
  · exact hfield 3
  · exact hfield 2

theorem vaddr_lt_of_readProgramHeaders {headers : List ProgramHeader}
    (h : l.readProgramHeaders n bs = .ok headers) : ∀ p ∈ headers, p.vaddr < 2 ^ 64 := by
  induction n generalizing bs headers with
  | zero =>
    cases h
    simp
  | succ n ih =>
    rcases Except.bind_eq_ok_iff.1 h with ⟨⟨values, behind⟩, hvalues, hrest⟩
    rcases Except.bind_eq_ok_iff.1 hrest with ⟨tail, htail, hresult⟩
    cases hresult
    intro p hp
    rcases List.mem_cons.1 hp with rfl | hmem
    · exact vaddr_programHeader_lt (lt_of_mem_readFields l.programHeaderWidths_le hvalues)
    · exact ih htail p hmem

end Layout

namespace File

theorem vaddr_lt_of_readProgramHeaders {l : Layout} {data : List UInt8} {offset count : Nat}
    {headers : List ProgramHeader} (h : readProgramHeaders l data offset count = .ok headers) :
    ∀ p ∈ headers, p.vaddr < 2 ^ 64 := by
  rw [readProgramHeaders] at h
  split at h
  · cases h
  · split at h
    · cases h
      simp
    · rcases Except.bind_eq_ok_iff.1 h with ⟨bs, _, hheaders⟩
      exact Layout.vaddr_lt_of_readProgramHeaders hheaders

/-- The link addresses of a file are words, as their fields are no longer than one. -/
theorem readsWords_read : FileReader.ReadsWords read := by
  intro data file h
  rcases Except.bind_eq_ok_iff.1 h with ⟨l, _, h⟩
  rcases Except.bind_eq_ok_iff.1 h with ⟨⟨values, _⟩, _, h⟩
  rcases Except.bind_eq_ok_iff.1 h with ⟨headers, hheaders, h⟩
  rcases Except.bind_eq_ok_iff.1 h with ⟨_, _, hresult⟩
  cases hresult
  exact vaddr_lt_of_readProgramHeaders hheaders

end File

end CodeSurvey.Elf
