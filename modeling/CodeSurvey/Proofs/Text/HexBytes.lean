import CodeSurvey.Proofs.Encoding.Opcodes
import CodeSurvey.Text.Hex
import CodeSurvey.Text.Numeral

/-!
# Bytes in base sixteen

Bytes are written as pairs of digits. A reader that skips the blanks and takes the digits two by two
gets the bytes back.

* `Text.readHexBytes` : the reader;
* `Text.toList_hexByte` : the two digits of a byte;
* `Text.readHexBytes_hexBytes` : what is written is read.
-/

namespace CodeSurvey.Text

/-! ## Reading -/

/-- The bytes of some digits, two for each byte. -/
def readDigitPairs : List Char → Option (List UInt8)
  | [] => some []
  | [_] => none
  | high :: low :: cs =>
    match digit? 16 high, digit? 16 low with
    | some h, some l => (readDigitPairs cs).map (UInt8.ofNat (h * 16 + l) :: ·)
    | _, _ => none

/-- The bytes of a text of digits and blanks. -/
def readHexBytes (s : String) : Option (List UInt8) :=
  readDigitPairs (s.toList.filter (· ≠ ' '))

/-! ## Written bytes -/

/-- The higher digit of a byte and the lower one. -/
def digitPair (b : UInt8) : List Char :=
  [Nat.digitChar (b.toNat / 16), Nat.digitChar (b.toNat % 16)]

/-- A byte below sixteen has one digit of its own and is filled up. -/
theorem toList_hexByte (b : UInt8) : (hexByte b).toList = digitPair b := by
  have hfilled : ∀ b : UInt8,
      List.replicate (2 - (Nat.toDigits 16 b.toNat).length) '0' ++ Nat.toDigits 16 b.toNat =
        digitPair b := by
    apply forall_byte
    decide +kernel
  have hbyte := hfilled b
  rwa [hexByte, padLeft, hex, String.toList_ofList, String.toList_ofList, String.length_ofList]

theorem digit?_digitChar {n : Nat} (h : n < 16) : digit? 16 (Nat.digitChar n) = some n := by
  revert n
  decide

theorem digitChar_ne_blank {n : Nat} (h : n < 16) : Nat.digitChar n ≠ ' ' := by
  revert n
  decide

theorem filter_digitPair (b : UInt8) : (digitPair b).filter (· ≠ ' ') = digitPair b := by
  have hbyte := b.toNat_lt
  have hhigh := digitChar_ne_blank (n := b.toNat / 16) (by omega)
  have hlow := digitChar_ne_blank (n := b.toNat % 16) (by omega)
  simp [digitPair, hhigh, hlow]

theorem readDigitPairs_digitPair (b : UInt8) (cs : List Char) :
    readDigitPairs (digitPair b ++ cs) = (readDigitPairs cs).map (b :: ·) := by
  have hbyte := b.toNat_lt
  have hhigh := digit?_digitChar (n := b.toNat / 16) (by omega)
  have hlow := digit?_digitChar (n := b.toNat % 16) (by omega)
  have hvalue : UInt8.ofNat (b.toNat / 16 * 16 + b.toNat % 16) = b := by
    rw [Nat.div_add_mod', UInt8.ofNat_toNat]
  simp only [digitPair, List.cons_append, List.nil_append, readDigitPairs, hhigh, hlow, hvalue]

/-- Without the blanks, the digits of one byte follow those of the other. -/
theorem filter_hexBytes (bs : List UInt8) :
    (hexBytes " " bs).toList.filter (· ≠ ' ') = bs.flatMap digitPair := by
  induction bs with
  | nil => rfl
  | cons b bs ih =>
    rw [List.flatMap_cons, ← ih, ← filter_digitPair b, ← toList_hexByte]
    -- There is a blank behind the first byte only if another one follows.
    cases bs with
    | nil => simp [hexBytes]
    | cons b' bs => simp [hexBytes]

/-- Bytes that are written with blanks between them are read back. -/
theorem readHexBytes_hexBytes (bs : List UInt8) : readHexBytes (hexBytes " " bs) = some bs := by
  rw [readHexBytes, filter_hexBytes]
  induction bs with
  | nil => rfl
  | cons b bs ih => rw [List.flatMap_cons, readDigitPairs_digitPair, ih, Option.map_some]

end CodeSurvey.Text
