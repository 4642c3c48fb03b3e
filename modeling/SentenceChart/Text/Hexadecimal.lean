/-!
# Hexadecimal numerals of fixed width

Escapes write a code point with a fixed number of lower-case hexadecimal
digits.
-/

namespace SentenceChart.Text

/-- The last `width` lower-case hexadecimal digits of a number. -/
def hexDigits : Nat → Nat → List Char
  | 0, _ => []
  | width + 1, number =>
      hexDigits width (number / 16) ++ [Nat.digitChar (number % 16)]

theorem length_hexDigits (width number : Nat) :
    (hexDigits width number).length = width := by
  induction width generalizing number with
  | zero => rfl
  | succ width ih => simp [hexDigits, ih]

end SentenceChart.Text
