import CodeSurvey.Text.Hex
import CodeSurvey.Text.Quoted.Visible

/-!
# Quoted text

A text between double quotes, in which every character can be told: the marks and the most common
controls are escaped by a letter, what does not show on its own by its code point in braces.

- `escape` : one character
- `quoted` : a whole text
-/

namespace CodeSurvey.Text

/-- One character between double quotes. A single quote stands for itself. -/
def escape (c : Char) : List Char :=
  match c with
  | '\x00' => ['\\', '0']
  | '\t' => ['\\', 't']
  | '\r' => ['\\', 'r']
  | '\n' => ['\\', 'n']
  | '\\' => ['\\', '\\']
  | '"' => ['\\', '"']
  | c => if isVisible c then [c] else ("\\u\x7b" ++ hex c.toNat ++ "\x7d").toList

def quoted (s : List Char) : String :=
  String.ofList ('"' :: s.flatMap escape ++ ['"'])

end CodeSurvey.Text
