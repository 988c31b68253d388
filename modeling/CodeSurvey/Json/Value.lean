import CodeSurvey.Text.Hex

/-!
# JSON values and their two layouts

- `Json.Value` : values with natural numbers only; the fields of an object keep their order
- `Json.quote` : a string with its marks
- `Value.compact` : no blanks at all
- `Value.pretty` : one item per line, two blanks deeper per level, empty brackets closed at once
-/

namespace CodeSurvey.Json

inductive Value
  | null
  | bool (b : Bool)
  | number (n : Nat)
  | string (s : String)
  | array (items : List Value)
  | object (fields : List (String × Value))

namespace Value

def ofOption (n : Option Nat) : Value :=
  match n with
  | some n => .number n
  | none => .null

end Value

/-! ## Strings -/

/-- One character inside a string. Marks and control characters are escaped. -/
def escape (c : Char) : List Char :=
  match c with
  | '"' => ['\\', '"']
  | '\\' => ['\\', '\\']
  | '\n' => ['\\', 'n']
  | '\r' => ['\\', 'r']
  | '\t' => ['\\', 't']
  | '\x08' => ['\\', 'b']
  | '\x0c' => ['\\', 'f']
  | c => if c.toNat < 0x20 then ("\\u" ++ Text.padLeft 4 '0' (Text.hex c.toNat)).toList else [c]

def quote (s : String) : String :=
  String.ofList ('"' :: s.toList.flatMap escape ++ ['"'])

/-! ## Layouts -/

/-- Puts brackets around items that are separated by commas. -/
def enclose (left right : String) (items : List String) : String :=
  left ++ ",".intercalate items ++ right

/-- As `enclose`, with each item on a line of its own, one level deeper than the brackets. -/
def encloseLines (level : Nat) (left right : String) (items : List String) : String :=
  let newline (n : Nat) := "\n" ++ Text.padLeft (2 * n) ' ' ""
  if items.isEmpty then left ++ right
  else
    left ++ newline (level + 1) ++ ("," ++ newline (level + 1)).intercalate items ++ newline level
      ++ right

namespace Value

mutual

def compact : Value → String
  | .null => "null"
  | .bool b => if b then "true" else "false"
  | .number n => toString n
  | .string s => quote s
  | .array items => enclose "[" "]" (compactItems items)
  | .object fields => enclose "\x7b" "\x7d" (compactFields fields)

def compactItems : List Value → List String
  | [] => []
  | v :: vs => v.compact :: compactItems vs

def compactFields : List (String × Value) → List String
  | [] => []
  | (name, v) :: fs => (quote name ++ ":" ++ v.compact) :: compactFields fs

end

mutual

/-- The text of a value whose first line is indented already. -/
def prettyAt (level : Nat) : Value → String
  | .null => "null"
  | .bool b => if b then "true" else "false"
  | .number n => toString n
  | .string s => quote s
  | .array items => encloseLines level "[" "]" (prettyItems (level + 1) items)
  | .object fields => encloseLines level "\x7b" "\x7d" (prettyFields (level + 1) fields)

def prettyItems (level : Nat) : List Value → List String
  | [] => []
  | v :: vs => v.prettyAt level :: prettyItems level vs

def prettyFields (level : Nat) : List (String × Value) → List String
  | [] => []
  | (name, v) :: fs => (quote name ++ ": " ++ v.prettyAt level) :: prettyFields level fs

end

def pretty (v : Value) : String :=
  v.prettyAt 0

end Value

end CodeSurvey.Json
