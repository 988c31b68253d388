import CodeSurvey.Text.Lowercase.Context
import CodeSurvey.Text.Lowercase.Mapping

/-!
# Lower case

The lower case of a text. Each character stands for itself, with two exceptions: the capital I with
a dot becomes two characters, and a capital sigma depends on whether it ends a word.

- `lowercase` : the whole text
- `endsWord` : the rule for sigma
-/

namespace CodeSurvey.Text

/-- The lower case of a character out of context. -/
def lowerChar (c : Char) : List Char :=
  if c = '\u0130' then ['i', '\u0307'] else [Char.ofNat (lowerCode c.toNat)]

/-- The next character that is not looked through is a letter with case. -/
def reachesCased (cs : List Char) : Bool :=
  (cs.dropWhile isCaseIgnorable).head?.any isCased

/-- A letter between two texts, the first one backwards, ends a word. -/
def endsWord (before after : List Char) : Bool :=
  reachesCased before && !reachesCased after

/-- The lower case of a text behind another text, which is given backwards. -/
def lowercaseAfter : (before : List Char) → List Char → List Char
  | _, [] => []
  | before, c :: cs =>
    let lower :=
      if c = '\u03a3' then [if endsWord before cs then '\u03c2' else '\u03c3'] else lowerChar c
    lower ++ lowercaseAfter (c :: before) cs

def lowercase (s : String) : String :=
  String.ofList (lowercaseAfter [] s.toList)

end CodeSurvey.Text
