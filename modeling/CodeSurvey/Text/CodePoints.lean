/-!
# Sets of characters

A property of characters is kept as closed ranges of code points in ascending order.

- `inRanges` : membership
-/

namespace CodeSurvey.Text

/-- Some closed range of code points holds the character. -/
def inRanges (ranges : List (Nat × Nat)) (c : Char) : Bool :=
  ranges.any fun r => r.1 ≤ c.toNat && c.toNat ≤ r.2

end CodeSurvey.Text
