import CodeSurvey.Json.Skip
import CodeSurvey.Text.Quoted

/-!
# Reading typed values

Values of a known form: numbers below a limit, options, choices between names, and records.

- `refuse` : the problem that a value of an unwanted kind is
- `readUnsigned`, `readOption`, `readChoice` : the leaves
- `RecordForm` : a record's fields and how they come together
- `RecordForm.read` : a record as an object, or as the list of its fields in order
- `readDocument` : one value and nothing behind it
-/

namespace CodeSurvey.Json

/-! ## Unwanted values -/

/-- The problem that a value is where another kind was expected. Words, numbers and strings are
read to their ends first, as they may be broken themselves. -/
def refuse {α : Type} (expected : String) (cs : List Char) : Except Problem α :=
  let unwanted (found : String) (rest : List Char) := fail (.wrongKind found expected) rest
  match cs with
  | [] => fail (.ended .value) []
  | 'n' :: cs => do unwanted "null" (← readWord "ull".toList cs)
  | 't' :: cs => do unwanted "boolean `true`" (← readWord "rue".toList cs)
  | 'f' :: cs => do unwanted "boolean `false`" (← readWord "alse".toList cs)
  | '"' :: cs => do
    let (s, rest) ← readStringBody cs
    unwanted ("string " ++ Text.quoted s) rest
  | '[' :: _ => unwanted "sequence" cs
  | '\x7b' :: _ => unwanted "map" cs
  | c :: rest =>
    if c = '-' ∨ isDigit c then do
      let (n, rest) ← readNumber cs
      unwanted n.text rest
    else failAt .expectedValue (c :: rest)

/-! ## Leaves -/

/-- A natural number below a limit. -/
def readUnsigned (limit : Nat) (expected : String) : Reader Nat := fun cs =>
  match skipBlanks cs with
  | [] => fail (.ended .value) []
  | c :: rest =>
    if c = '-' ∨ isDigit c then do
      let (n, rest) ← readNumber (c :: rest)
      match n with
      | .natural n =>
        if n < limit then .ok (n, rest)
        else fail (.wrongValue (Number.natural n).text expected) rest
      | .negative n => fail (.wrongValue (Number.negative n).text expected) rest
      | .fractional isNegative x =>
        fail (.wrongKind (Number.fractional isNegative x).text expected) rest
    else refuse expected (c :: rest)

/-- A value or `null`. -/
def readOption {α : Type} (read : Reader α) : Reader (Option α) := fun cs =>
  match skipBlanks cs with
  | 'n' :: cs => do return (none, ← readWord "ull".toList cs)
  | cs => (read cs).map fun (a, rest) => (some a, rest)

/-- The value that a name is known for. -/
def lookUp {α : Type} (known : List (String × α)) (name : String) (rest : List Char) :
    Except Problem (α × List Char) :=
  match known.find? fun k => k.1 == name with
  | some k => .ok (k.2, rest)
  | none => fail (.unknownVariant name (known.map Prod.fst)) rest

/-- A name behind its opening mark. -/
def readName {α : Type} (known : List (String × α)) : Reader α := fun cs => do
  let (name, rest) ← readStringBody cs
  lookUp known (String.ofList name) rest

/-- The word `null`. -/
def readNull (cs : List Char) : Except Problem (List Char) :=
  match skipBlanks cs with
  | 'n' :: cs => readWord "ull".toList cs
  | cs => refuse "unit" cs

/-- A name as the only key of an object with the value `null`, behind the opening bracket. -/
def readNameKey {α : Type} (known : List (String × α)) : Reader α := fun cs => do
  let (a, cs) ← match skipBlanks cs with
    | [] => fail (.ended .object) []
    | '"' :: cs => readName known cs
    | '\x7d' :: cs => failAt .expectedValue ('\x7d' :: cs)
    | cs => failAt .keyMustBeString cs
  let cs ← readNull (← readColon cs)
  match skipBlanks cs with
  | [] => fail (.ended .object) []
  | '\x7d' :: cs => return (a, cs)
  | cs => fail .expectedValue cs

/-- One of some names: a string, or an object with the name as its only key. -/
def readChoice {α : Type} (known : List (String × α)) : Reader α := fun cs =>
  match skipBlanks cs with
  | [] => fail (.ended .value) []
  | '"' :: cs => readName known cs
  | '\x7b' :: cs => readNameKey known cs
  | cs => failAt .expectedValue cs

/-! ## Records -/

/-- One field, read into a record that is being put together. -/
structure FieldForm (α : Type) where
  name : String
  read : α → Reader α

/-- The form of a record of type `β` that is put together from `α`. -/
structure RecordForm (α β : Type) where
  title : String
  fields : List (FieldForm α)
  initial : α
  /-- The whole record, or what is missing. -/
  finish : α → Except Cause β
  /-- A list may end before its last field. -/
  mayEndEarly : Bool

/-- Where the next item of a list starts, if it is not at its end. -/
def nextItem? (isFirst : Bool) (cs : List Char) : Except Problem (Option (List Char)) :=
  match skipBlanks cs with
  | [] => fail (.ended .list) []
  | ']' :: _ => .ok none
  | c :: cs =>
    if isFirst then .ok (some (c :: cs))
    else if c = ',' then
      match skipBlanks cs with
      | [] => fail (.ended .value) []
      | ']' :: cs => failAt .trailingComma (']' :: cs)
      | cs => .ok (some cs)
    else failAt .expectedListCommaOrEnd (c :: cs)

/-- The end of a list. -/
def closeList (cs : List Char) : Except Problem (List Char) :=
  match skipBlanks cs with
  | [] => fail (.ended .list) []
  | ']' :: cs => .ok cs
  | ',' :: cs =>
    match skipBlanks cs with
    | ']' :: cs => failAt .trailingComma (']' :: cs)
    | cs => failAt .trailingCharacters cs
  | cs => failAt .trailingCharacters cs

/-- The text behind blanks and a closing bracket, if one comes next. A problem of a whole record is
placed there. -/
def behindCloser (closer : Char) (cs : List Char) : List Char :=
  match skipBlanks cs with
  | c :: rest => if c = closer then rest else c :: rest
  | [] => []

/-- Where the next name of an object starts, behind its opening mark, or the text behind the
object. -/
def nextName? (isFirst : Bool) (cs : List Char) :
    Except Problem (List Char ⊕ List Char) :=
  let name (cs : List Char) : Except Problem (List Char ⊕ List Char) :=
    match cs with
    | '"' :: cs => .ok (.inl cs)
    | cs => failAt .keyMustBeString cs
  match skipBlanks cs with
  | [] => fail (.ended .object) []
  | '\x7d' :: cs => .ok (.inr cs)
  | c :: cs =>
    if isFirst then name (c :: cs)
    else if c = ',' then
      match skipBlanks cs with
      | [] => fail (.ended .value) []
      | '\x7d' :: cs => failAt .trailingComma ('\x7d' :: cs)
      | cs => name cs
    else failAt .expectedObjectCommaOrEnd (c :: cs)

namespace RecordForm

variable {α β : Type}

/-- Reads fields in order, from the items of a list. -/
def readItems (form : RecordForm α β) : List (FieldForm α) → Bool → α → Reader α
  | [], _, a, cs => .ok (a, cs)
  | f :: fs, isFirst, a, cs => do
    match ← nextItem? isFirst cs with
    | some cs =>
      let (a, cs) ← f.read a cs
      form.readItems fs false a cs
    | none =>
      if form.mayEndEarly then return (a, cs)
      else
        let length := form.fields.length - (f :: fs).length
        fail (.wrongLength length (form.title ++ " with " ++ toString form.fields.length
          ++ " elements")) (behindCloser ']' cs)

/-- Reads fields in any order, from the members of an object. A field may not come twice; members
that are no field are passed over. Each round reads at least one character. -/
def readMembers (form : RecordForm α β) :
    (rounds : Nat) → (seen : List String) → Bool → α → Reader α
  | 0, _, _, _, cs => fail (.ended .object) cs
  | rounds + 1, seen, isFirst, a, cs => do
    match ← nextName? isFirst cs with
    | .inr cs => return (a, cs)
    | .inl cs =>
      let (name, cs) ← readStringBody cs
      let name := String.ofList name
      match form.fields.find? fun f => f.name == name with
      | none =>
        let cs ← skipValue (← readColon cs)
        form.readMembers rounds seen false a cs
      | some f =>
        if seen.contains name then fail (.duplicateField name) (behindCloser '\x7d' cs)
        else
          let (a, cs) ← f.read a (← readColon cs)
          form.readMembers rounds (name :: seen) false a cs

/-- A record as an object or as a list. -/
def read (form : RecordForm α β) : Reader β := fun cs => do
  let (a, cs) ← match skipBlanks cs with
    | [] => fail (.ended .value) []
    | '[' :: cs => do
      let (a, cs) ← form.readItems form.fields true form.initial cs
      pure (a, ← closeList cs)
    | '\x7b' :: cs => form.readMembers (cs.length + 1) [] true form.initial cs
    | cs => refuse form.title cs
  match form.finish a with
  | .ok b => return (b, cs)
  | .error cause => fail cause cs

end RecordForm

/-! ## Documents -/

/-- One value with nothing but blanks behind it. -/
def readDocument {α : Type} (read : Reader α) (text : String) : Except Problem α := do
  let (a, rest) ← read text.toList
  match skipBlanks rest with
  | [] => return a
  | rest => failAt .trailingCharacters rest

end CodeSurvey.Json
