import CodeSurvey.Json.Record
import CodeSurvey.Proofs.Json.Numerals
import CodeSurvey.Proofs.Json.Strings

/-!
# Objects in a JSON text

What the compact layout writes is read back: numbers, names and records whose members are written in
any order. And what is read from a text that nobody has checked is still put together by the readers
of the fields, one after the other, so that it has every property that all of them keep.

* `Json.Reads read v a` : the reader makes `a` of the written value `v`;
* `RecordForm.Fills form seen a members b` : the members fill the record from `a` to `b`;
* `RecordForm.reads_object` : a written object is read as the record that its members fill;
* `RecordForm.Keeps form P` : the readers of the fields keep the property `P`;
* `RecordForm.Keeps.of_read` : a record is finished from something that has it.
-/

namespace CodeSurvey.Json

variable {α β : Type} {cs rest : List Char}

/-! ## Blanks -/

/-- Blanks are skipped up to what starts without one. -/
theorem skipBlanks_eq_iff {back : List Char} (hback : ∀ c ∈ back.head?, isBlank c = false) :
    skipBlanks cs = back ↔ ∃ front, (∀ c ∈ front, isBlank c = true) ∧ cs = front ++ back := by
  constructor
  · intro h
    rcases (Text.dropWhile_eq_iff.1 h).1 with ⟨front, hcut, hfront⟩
    exact ⟨front, hfront, hcut⟩
  · rintro ⟨front, hfront, hcut⟩
    exact Text.dropWhile_eq_iff.2 ⟨⟨front, hcut, hfront⟩, hback⟩

theorem isBlank_iff {c : Char} : isBlank c = true ↔ c = ' ' ∨ c = '\n' ∨ c = '\t' ∨ c = '\r' := by
  simp only [isBlank, Bool.or_eq_true, beq_iff_eq, or_assoc]

/-- No blank is a digit. -/
theorem isBlank_of_isDigit {c : Char} (h : isDigit c = true) : isBlank c = false := by
  rw [Bool.eq_false_iff]
  intro hblank
  rcases isBlank_iff.1 hblank with rfl | rfl | rfl | rfl <;> revert h <;> decide

/-- A number ends in front of a blank. -/
theorem endsNumber_of_isBlank (h : ∀ c ∈ rest, isBlank c = true) : EndsNumber rest := by
  intro c hc
  rcases isBlank_iff.1 (h c (List.mem_of_mem_head? hc)) with rfl | rfl | rfl | rfl <;> decide

theorem isBlank_head?_toDigits {n : Nat} :
    ∀ c ∈ (Nat.toDigits 10 n ++ rest).head?, isBlank c = false := by
  rcases exists_cons_toDigits n with ⟨c, ds, hcut, hc⟩
  rw [hcut]
  rintro _ ⟨⟩
  exact isBlank_of_isDigit hc

/-- A document is one value with blanks behind it. -/
theorem readDocument_eq_ok_iff {read : Reader α} {text : String} {a : α} :
    readDocument read text = .ok a ↔
      ∃ rest, read text.toList = .ok (a, rest) ∧ ∀ c ∈ rest, isBlank c = true := by
  have hend {rest : List Char} : skipBlanks rest = [] ↔ ∀ c ∈ rest, isBlank c = true := by
    rw [skipBlanks_eq_iff (by simp)]
    simp
  rw [Json.readDocument, Except.bind_eq_ok_iff]
  constructor
  · rintro ⟨⟨b, rest⟩, hread, hbehind⟩
    simp only at hbehind
    split at hbehind
    · next hnil =>
      cases hbehind
      exact ⟨rest, hread, hend.1 hnil⟩
    · cases hbehind
  · rintro ⟨rest, hread, hblank⟩
    refine ⟨(a, rest), hread, ?_⟩
    simp only [hend.2 hblank]
    rfl

/-! ## Written values -/

/-- The reader makes `a` of the written value `v`, and stops behind it. -/
def Reads (read : Reader α) (v : Value) (a : α) : Prop :=
  ∀ rest, EndsNumber rest → read (v.compact.toList ++ rest) = .ok (a, rest)

theorem endsNumber_nil : EndsNumber [] := by
  rintro c ⟨⟩

theorem Reads.readDocument {read : Reader α} {v : Value} {a : α} (h : Reads read v a) :
    readDocument read v.compact = .ok a := by
  have hread := h [] endsNumber_nil
  rw [List.append_nil] at hread
  exact readDocument_eq_ok_iff.2 ⟨[], hread, by simp⟩

/-- What is made of a result leaves the text behind it alone. -/
theorem map_eq_ok_iff {x : Except Problem (α × List Char)} {f : α → β} {b : β} :
    (x.map fun (a, rest) => (f a, rest)) = .ok (b, rest) ↔ ∃ a, x = .ok (a, rest) ∧ f a = b := by
  cases x with
  | error e => simp [Except.map]
  | ok p =>
    rcases p with ⟨a, rest'⟩
    simp only [Except.map, Except.ok.injEq, Prod.mk.injEq]
    constructor
    · rintro ⟨rfl, rfl⟩
      exact ⟨a, ⟨rfl, rfl⟩, rfl⟩
    · rintro ⟨_, ⟨rfl, rfl⟩, rfl⟩
      exact ⟨rfl, rfl⟩

theorem Reads.map {read : Reader α} {v : Value} {a : α} (h : Reads read v a) (f : α → β) :
    Reads (fun cs => (read cs).map fun (a, rest) => (f a, rest)) v (f a) := by
  intro rest hrest
  exact map_eq_ok_iff.2 ⟨a, h rest hrest, rfl⟩

theorem reads_number {limit n : Nat} {expected : String} (hlimit : limit ≤ 1 <<< 64)
    (hn : n < limit) : Reads (readUnsigned limit expected) (.number n) n := by
  intro rest hrest
  have htext : (Value.number n).compact.toList = Nat.toDigits 10 n := by
    rw [Value.compact, Nat.toString_eq_ofList_toDigits, String.toList_ofList]
  rw [htext]
  have hskip : skipBlanks (Nat.toDigits 10 n ++ rest) = Nat.toDigits 10 n ++ rest :=
    (skipBlanks_eq_iff isBlank_head?_toDigits).2 ⟨[], by simp, rfl⟩
  exact (readUnsigned_eq_ok_iff hlimit).2 ⟨hn, hskip, hrest⟩

theorem toList_quote (s : String) :
    (quote s).toList = '"' :: (s.toList.flatMap escape ++ ['"']) := by
  rw [quote, String.toList_ofList, List.cons_append]

theorem reads_choice {known : List (String × α)} {name : String} {a : α}
    (hknown : known.find? (fun k => k.1 == name) = some (name, a)) :
    Reads (readChoice known) (.string name) a := by
  intro rest _
  have htext : (Value.string name).compact.toList ++ rest =
      '"' :: (name.toList.flatMap escape ++ '"' :: rest) := by
    rw [Value.compact, toList_quote, List.cons_append, List.append_assoc, List.singleton_append]
  rw [htext]
  show readName known (name.toList.flatMap escape ++ '"' :: rest) = _
  rw [readName, readStringBody_quote]
  show lookUp known (String.ofList name.toList) rest = _
  rw [String.ofList_toList, lookUp, hknown]

/-! ## Written members -/

/-- The members of an object behind its opening bracket, and the text behind the closing one. Each
member but the first has a comma in front. -/
def memberChars (rest : List Char) : (isFirst : Bool) → List (String × Value) → List Char
  | _, [] => '\x7d' :: rest
  | isFirst, (name, v) :: members =>
    (if isFirst then [] else [',']) ++ (quote name).toList ++
      (':' :: v.compact.toList ++ memberChars rest false members)

theorem toList_intercalate_cons (s : String) (ss : List String) :
    (",".intercalate (s :: ss)).toList = s.toList ++ ss.flatMap fun s => ',' :: s.toList := by
  induction ss generalizing s with
  | nil => simp
  | cons t ss ih =>
    have hnext := ih t
    rw [String.toList_intercalate, List.map_cons] at hnext
    rw [String.toList_intercalate, List.map_cons, List.map_cons, List.intercalate_cons_cons, hnext,
      List.flatMap_cons]
    simp

theorem toList_compactFields (rest : List Char) (members : List (String × Value)) :
    (Value.compactFields members).flatMap (fun s => ',' :: s.toList) ++ '\x7d' :: rest =
      memberChars rest false members := by
  induction members with
  | nil => rfl
  | cons m members ih =>
    rw [Value.compactFields, List.flatMap_cons, List.append_assoc, ih, memberChars]
    simp

theorem toList_object (members : List (String × Value)) (rest : List Char) :
    (Value.object members).compact.toList ++ rest = '\x7b' :: memberChars rest true members := by
  rw [Value.compact, enclose, String.toList_append, String.toList_append]
  -- Only the first member has no comma in front, so it is taken apart from the others.
  cases members with
  | nil => rfl
  | cons m members =>
    rw [Value.compactFields, toList_intercalate_cons, memberChars, ← toList_compactFields]
    simp

/-- At least one character for each member. -/
theorem length_le_length_memberChars (rest : List Char) (isFirst : Bool)
    (members : List (String × Value)) :
    members.length < (memberChars rest isFirst members).length := by
  induction members generalizing isFirst with
  | nil => simp [memberChars]
  | cons m members ih =>
    have hbehind := ih false
    simp only [memberChars, List.length_append, List.length_cons]
    omega

theorem endsNumber_memberChars (rest : List Char) (members : List (String × Value)) :
    EndsNumber (memberChars rest false members) := by
  cases members with
  | nil =>
    rintro _ ⟨⟩
    decide
  | cons m members =>
    rintro _ ⟨⟩
    decide

/-! ## Records -/

namespace RecordForm

variable {form : RecordForm α β} {seen : List String} {a b : α} {members : List (String × Value)}

/-- The members fill a record from `a` to `b`. Each is a field that has not been seen, and its
reader takes the value. -/
inductive Fills (form : RecordForm α β) :
    List String → α → List (String × Value) → α → Prop
  | nil {seen : List String} {a : α} : Fills form seen a [] a
  | cons {seen : List String} {a b c : α} {name : String} {v : Value}
      {members : List (String × Value)} {f : FieldForm α} (hnew : name ∉ seen)
      (hfield : form.fields.find? (fun f => f.name == name) = some f)
      (hread : Reads (f.read a) v b) (hrest : Fills form (name :: seen) b members c) :
      Fills form seen a ((name, v) :: members) c

/-- One member is read as its field. -/
theorem readMembers_member {name : String} {v : Value} {f : FieldForm α} (hnew : name ∉ seen)
    (hfield : form.fields.find? (fun f => f.name == name) = some f)
    (hread : Reads (f.read a) v b) (rounds : Nat) (isFirst : Bool) (rest : List Char) :
    form.readMembers (rounds + 1) seen isFirst a (memberChars rest isFirst ((name, v) :: members)) =
      form.readMembers rounds (name :: seen) false b (memberChars rest false members) := by
  have hstart : nextName? isFirst (memberChars rest isFirst ((name, v) :: members)) =
      .ok (.inl (name.toList.flatMap escape ++ '"' ::
        (':' :: v.compact.toList ++ memberChars rest false members))) := by
    rw [memberChars, toList_quote]
    cases isFirst <;> simp <;> rfl
  have hvalue := hread _ (endsNumber_memberChars rest members)
  have hseen : seen.contains name = false := by simpa using hnew
  have hcolon (cs : List Char) : readColon (':' :: cs) = .ok cs := rfl
  rw [readMembers, hstart]
  simp only [bind, Except.bind, readStringBody_quote, String.ofList_toList, hfield, hseen,
    List.cons_append, hcolon, hvalue, Bool.false_eq_true, if_false]

/-- Written members are read as what they fill. -/
theorem Fills.readMembers (h : form.Fills seen a members b) {rounds : Nat}
    (hrounds : members.length < rounds) (isFirst : Bool) (rest : List Char) :
    form.readMembers rounds seen isFirst a (memberChars rest isFirst members) = .ok (b, rest) := by
  -- One round for each member and one for the closing bracket.
  induction h generalizing rounds isFirst with
  | nil =>
    cases rounds with
    | zero => exact absurd hrounds (Nat.not_lt_zero _)
    | succ rounds => rfl
  | cons hnew hfield hread _ ih =>
    cases rounds with
    | zero => exact absurd hrounds (Nat.not_lt_zero _)
    | succ rounds =>
      rw [readMembers_member hnew hfield hread]
      exact ih (Nat.lt_of_succ_lt_succ hrounds) false

/-- A record is read from a list or from an object, and then finished. -/
theorem read_eq_ok_iff {r : β} :
    form.read cs = .ok (r, rest) ↔
      ∃ a, form.finish a = .ok r ∧
        ((∃ behind items, skipBlanks cs = '[' :: behind ∧
            form.readItems form.fields true form.initial behind = .ok (a, items) ∧
            closeList items = .ok rest) ∨
          ∃ behind, skipBlanks cs = '\x7b' :: behind ∧
            form.readMembers (behind.length + 1) [] true form.initial behind = .ok (a, rest)) := by
  unfold RecordForm.read
  simp only
  split
  · next hnil => simp [hnil, fail, bind, Except.bind]
  · next behind hlist =>
    rw [hlist]
    constructor
    · intro h
      rcases Except.bind_eq_ok_iff.1 h with ⟨⟨a, items⟩, hitems, h⟩
      rcases Except.bind_eq_ok_iff.1 h with ⟨cs, hclose, h⟩
      simp only [pure_bind] at h
      split at h
      · next ha =>
        cases h
        exact ⟨a, ha, .inl ⟨behind, items, rfl, hitems, hclose⟩⟩
      · cases h
    · rintro ⟨a, ha, ⟨_, items, ⟨⟩, hitems, hclose⟩ | ⟨_, ⟨⟩, _⟩⟩
      refine Except.bind_eq_ok_iff.2 ⟨(a, items), hitems,
        Except.bind_eq_ok_iff.2 ⟨rest, hclose, ?_⟩⟩
      simp only [pure_bind, ha]
      rfl
  · next behind hobject =>
    rw [hobject]
    constructor
    · intro h
      rcases Except.bind_eq_ok_iff.1 h with ⟨⟨a, cs⟩, hmembers, h⟩
      simp only at h
      split at h
      · next ha =>
        cases h
        exact ⟨a, ha, .inr ⟨behind, rfl, hmembers⟩⟩
      · cases h
    · rintro ⟨a, ha, ⟨_, _, ⟨⟩, _⟩ | ⟨_, ⟨⟩, hmembers⟩⟩
      refine Except.bind_eq_ok_iff.2 ⟨(a, rest), hmembers, ?_⟩
      simp only [ha]
      rfl
  · next _ hlist hobject =>
    refine iff_of_false ?_ ?_
    · intro h
      rcases Except.bind_eq_ok_iff.1 h with ⟨_, hrefuse, _⟩
      exact refuse_ne_ok hrefuse
    · rintro ⟨a, ha, ⟨behind, _, hstart, _⟩ | ⟨behind, hstart, _⟩⟩
      · exact hlist behind hstart
      · exact hobject behind hstart

/-- A written object is read as the record that its members fill. -/
theorem reads_object {r : β} (h : form.Fills [] form.initial members a)
    (hfinish : form.finish a = .ok r) : Reads form.read (.object members) r := by
  intro rest _
  -- There are as many rounds as characters, and no member without one.
  have hmembers := h.readMembers
    (Nat.lt_succ_of_lt (length_le_length_memberChars rest true members)) true rest
  rw [toList_object, read_eq_ok_iff]
  exact ⟨a, hfinish, .inr ⟨_, rfl, hmembers⟩⟩

/-! ## What the readers of the fields keep -/

/-- A record starts with the property, and the reader of every field keeps it. -/
structure Keeps (form : RecordForm α β) (P : α → Prop) : Prop where
  initial : P form.initial
  field : ∀ f ∈ form.fields, ∀ a cs b rest, P a → f.read a cs = .ok (b, rest) → P b

variable {P : α → Prop}

theorem Keeps.readItems (h : form.Keeps P) {fs : List (FieldForm α)}
    (hfs : ∀ f ∈ fs, f ∈ form.fields) {isFirst : Bool} (ha : P a)
    (hread : form.readItems fs isFirst a cs = .ok (b, rest)) : P b := by
  induction fs generalizing isFirst a cs with
  | nil =>
    cases hread
    exact ha
  | cons f fs ih =>
    rw [RecordForm.readItems] at hread
    rcases Except.bind_eq_ok_iff.1 hread with ⟨next, _, hread⟩
    rw [List.forall_mem_cons] at hfs
    cases next with
    | some cs =>
      rcases Except.bind_eq_ok_iff.1 hread with ⟨⟨c, cs⟩, hfield, hread⟩
      exact ih hfs.2 (h.field f hfs.1 a _ c _ ha hfield) hread
    | none =>
      simp only at hread
      split at hread
      · cases hread
        exact ha
      · cases hread

theorem Keeps.readMembers (h : form.Keeps P) {rounds : Nat} {isFirst : Bool} (ha : P a)
    (hread : form.readMembers rounds seen isFirst a cs = .ok (b, rest)) : P b := by
  induction rounds generalizing seen isFirst a cs with
  | zero => cases hread
  | succ rounds ih =>
    rw [RecordForm.readMembers] at hread
    rcases Except.bind_eq_ok_iff.1 hread with ⟨next, _, hread⟩
    cases next with
    | inr cs =>
      cases hread
      exact ha
    | inl cs =>
      rcases Except.bind_eq_ok_iff.1 hread with ⟨⟨name, cs⟩, _, hread⟩
      simp only at hread
      split at hread
      · -- A member that is no field is passed over.
        rcases Except.bind_eq_ok_iff.1 hread with ⟨_, _, hread⟩
        rcases Except.bind_eq_ok_iff.1 hread with ⟨_, _, hread⟩
        exact ih ha hread
      · next f hfind =>
        split at hread
        · cases hread
        · rcases Except.bind_eq_ok_iff.1 hread with ⟨_, _, hread⟩
          rcases Except.bind_eq_ok_iff.1 hread with ⟨⟨c, cs⟩, hfield, hread⟩
          exact ih (h.field f (List.mem_of_find?_eq_some hfind) a _ c _ ha hfield) hread

/-- A record that is read was finished from something that has the property. -/
theorem Keeps.of_read (h : form.Keeps P) {r : β} (hread : form.read cs = .ok (r, rest)) :
    ∃ a, P a ∧ form.finish a = .ok r := by
  rcases read_eq_ok_iff.1 hread with ⟨a, hfinish, hlist | hobject⟩
  · rcases hlist with ⟨_, _, _, hitems, _⟩
    exact ⟨a, h.readItems (fun f hf => hf) h.initial hitems, hfinish⟩
  · rcases hobject with ⟨_, _, hmembers⟩
    exact ⟨a, h.readMembers h.initial hmembers, hfinish⟩

end RecordForm

end CodeSurvey.Json
