import CodeSurvey.Json.Reader
import CodeSurvey.Json.Value
import CodeSurvey.Proofs.Text.HexBytes

/-!
# Strings in a JSON text

A string is read back from the characters that it is written with. Marks, the backslash and control
characters are escaped when they are written, and every escape is one that the reader knows.

* `Json.readStringBody_escape` : one character, in whatever way it is written;
* `Json.readStringBody_quote` : a whole string up to its closing mark.
-/

namespace CodeSurvey.Json

variable {c : Char} {cs rest : List Char}

/-- The four digits behind the escape of a control character. -/
theorem hexValue?_control {n : Nat} (h : n < 0x20) :
    hexValue? '0' '0' (Nat.digitChar (n / 16)) (Nat.digitChar (n % 16)) = some n := by
  have hhigh := Text.digit?_digitChar (n := n / 16) (by omega)
  have hlow := Text.digit?_digitChar (n := n % 16) (by omega)
  have hzero : Text.digit? 16 '0' = some 0 := by decide
  have hvalue : (((0 * 16 + 0) * 16 + n / 16) * 16 + n % 16) = n := by omega
  rw [hexValue?, hzero, hhigh, hlow]
  exact congrArg some hvalue

theorem toList_control {n : Nat} (h : n < 0x20) :
    ("\\u" ++ Text.padLeft 4 '0' (Text.hex n)).toList =
      ['\\', 'u', '0', '0', Nat.digitChar (n / 16), Nat.digitChar (n % 16)] := by
  revert n
  decide

theorem readStringBody_control (h : c.toNat < 0x20) :
    readStringBody (("\\u" ++ Text.padLeft 4 '0' (Text.hex c.toNat)).toList ++ cs) =
      prepend c (readStringBody cs) := by
  have hlow : isLowSurrogate c.toNat = false := by
    rw [isLowSurrogate, Bool.and_eq_false_iff, decide_eq_false_iff_not]
    exact .inl (by omega)
  have hhigh : isHighSurrogate c.toNat = false := by
    rw [isHighSurrogate, Bool.and_eq_false_iff, decide_eq_false_iff_not]
    exact .inl (by omega)
  rw [toList_control h]
  simp only [List.cons_append, List.nil_append]
  rw [readStringBody, hexValue?_control h]
  simp only [hlow, hhigh, Char.ofNat_toNat, Bool.false_eq_true, if_false]

theorem readStringBody_plain (hmark : c ≠ '"') (hescape : c ≠ '\\') (h : ¬ c.toNat < 0x20) :
    readStringBody (c :: cs) = prepend c (readStringBody cs) := by
  rw [readStringBody.eq_def]
  split
  case h_7 hcons =>
    rcases List.cons.inj hcons with ⟨rfl, rfl⟩
    rw [if_neg h]
  all_goals simp_all

/-- Whatever way a character is written in, it is read back. -/
theorem readStringBody_escape (c : Char) (cs : List Char) :
    readStringBody (escape c ++ cs) = prepend c (readStringBody cs) := by
  -- The first seven characters have escapes of one letter.
  unfold escape
  split
  case h_8 hmark hescape _ _ _ _ _ =>
    split
    · next hcontrol => exact readStringBody_control hcontrol
    · next hplain => exact readStringBody_plain hmark hescape hplain
  all_goals rfl

/-- A written string is read back. -/
theorem readStringBody_quote (s rest : List Char) :
    readStringBody (s.flatMap escape ++ '"' :: rest) = .ok (s, rest) := by
  induction s with
  | nil => rfl
  | cons c s ih =>
    rw [List.flatMap_cons, List.append_assoc, readStringBody_escape, ih]
    rfl

end CodeSurvey.Json
