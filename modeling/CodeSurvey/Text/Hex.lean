/-!
# Hexadecimal and padded text

Numbers are written in base sixteen with lower or upper case digits and no leading zeros, and
columns are filled up to a least width.

- `hex`, `hexUpper` : the digits alone
- `padLeft`, `padRight` : fill to a width; longer text is left as it is
- `hexByte`, `hexBytes` : two digits per byte
-/

namespace CodeSurvey.Text

/-! ## Digits -/

/-- Lower case base sixteen digits, `"0"` for zero. -/
def hex (n : Nat) : String :=
  String.ofList (Nat.toDigits 16 n)

/-- Upper case base sixteen digits, `"0"` for zero. -/
def hexUpper (n : Nat) : String :=
  String.ofList ((Nat.toDigits 16 n).map Char.toUpper)

/-- Lower case digits behind the `0x` mark. -/
def hexMarked (n : Nat) : String :=
  "0x" ++ hex n

/-! ## Columns -/

/-- Puts `fill` in front until the text has `width` characters. -/
def padLeft (width : Nat) (fill : Char) (s : String) : String :=
  String.ofList (List.replicate (width - s.length) fill ++ s.toList)

/-- Puts blanks behind until the text has `width` characters. -/
def padRight (width : Nat) (s : String) : String :=
  String.ofList (s.toList ++ List.replicate (width - s.length) ' ')

/-! ## Bytes -/

/-- Two lower case digits. -/
def hexByte (b : UInt8) : String :=
  padLeft 2 '0' (hex b.toNat)

/-- Two digits per byte, with `sep` between bytes. -/
def hexBytes (sep : String) (bs : List UInt8) : String :=
  sep.intercalate (bs.map hexByte)

end CodeSurvey.Text
