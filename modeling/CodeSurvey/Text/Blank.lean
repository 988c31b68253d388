import CodeSurvey.Text.CodePoints

/-!
# White space

The characters with the Unicode property `White_Space`, and trimming by it.

- `isBlank` : membership
- `trim` : the text without the blanks at both ends
-/

namespace CodeSurvey.Text

/-- The characters with the `White_Space` property. -/
def blankRanges : List (Nat × Nat) :=
  [(0x09, 0x0d), (0x20, 0x20), (0x85, 0x85), (0xa0, 0xa0), (0x1680, 0x1680), (0x2000, 0x200a),
   (0x2028, 0x2029), (0x202f, 0x202f), (0x205f, 0x205f), (0x3000, 0x3000)]

def isBlank (c : Char) : Bool :=
  inRanges blankRanges c

/-- Drops the blanks in front. -/
def trimFront (cs : List Char) : List Char :=
  cs.dropWhile isBlank

/-- Drops the blanks behind. -/
def trimBack (cs : List Char) : List Char :=
  (cs.reverse.dropWhile isBlank).reverse

/-- Drops the blanks at both ends. -/
def trim (cs : List Char) : List Char :=
  trimBack (trimFront cs)

end CodeSurvey.Text
