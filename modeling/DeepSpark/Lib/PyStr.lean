import Mathlib

/-!
Python's `str.isspace` and `str.lstrip`, and the blanks of a regular expression.

Owns which characters are blanks, and the removal of leading blanks from a text that grows.
-/

namespace DeepSpark.Lib

/-- A character that `\s` of the `regex` package matches. -/
def isWhiteSpace (character : Char) : Bool :=
  let code := character.toNat
  (9 ≤ code && code ≤ 13) || code == 32 || code == 0x85 || code == 0xA0 || code == 0x1680 ||
    (0x2000 ≤ code && code ≤ 0x200A) || code == 0x2028 || code == 0x2029 || code == 0x202F || code == 0x205F ||
    code == 0x3000

/-- A character that `str.strip` removes: an information separator too. -/
def isSpace (character : Char) : Bool :=
  isWhiteSpace character || (28 ≤ character.toNat && character.toNat ≤ 31)

def lstrip (text : List Char) : List Char := text.dropWhile isSpace

theorem lstrip_length_le (text : List Char) : (lstrip text).length ≤ text.length :=
  (List.dropWhile_sublist isSpace).length_le

theorem drop_stripped (text : List Char) : text.drop (text.length - (lstrip text).length) = lstrip text :=
  (List.suffix_iff_eq_drop.mp (List.dropWhile_suffix isSpace)).symm

/-- Leading blanks may be removed in pieces. -/
theorem lstrip_append (text more : List Char) : lstrip (text ++ more) = lstrip (lstrip text ++ more) := by
  induction text with
  | nil => rfl
  | cons char rest ih =>
    rw [List.cons_append]
    unfold lstrip at ih ⊢
    by_cases blank : isSpace char
    · rw [List.dropWhile_cons_of_pos blank, List.dropWhile_cons_of_pos blank, ih]
    · rw [List.dropWhile_cons_of_neg (l := rest) blank, List.cons_append]

/-- A text that begins with no blank keeps its beginning. -/
theorem lstrip_append_of_stripped {text : List Char} (nonempty : text ≠ []) (stripped : lstrip text = text)
    (more : List Char) : lstrip (text ++ more) = text ++ more := by
  cases text with
  | nil => exact absurd rfl nonempty
  | cons char rest =>
    have notBlank : ¬isSpace char := by
      intro blank
      have short := congrArg List.length stripped
      have bounded := lstrip_length_le rest
      rw [lstrip, List.dropWhile_cons_of_pos blank, List.length_cons] at short
      rw [lstrip] at bounded
      omega
    rw [List.cons_append, lstrip, List.dropWhile_cons_of_neg notBlank]

end DeepSpark.Lib
