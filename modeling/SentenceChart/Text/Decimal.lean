/-!
# Decimal numerals

Numbers are written with the digits `0` to `9`, without leading zeros, and
with a minus sign if they are negative.  A number with too many digits has no
numeral; a size never has that many.
-/

namespace SentenceChart.Text

/-- The decimal digits of a natural number. -/
def decimalDigits (number : Nat) : List Char :=
  Nat.toDigits 10 number

/-- The decimal numeral of an integer. -/
def decimal : Int → List Char
  | .ofNat number => decimalDigits number
  | .negSucc number => '-' :: decimalDigits (number + 1)

/-- The decimal numeral of an integer as a string. -/
def showInt (number : Int) : String :=
  String.ofList (decimal number)

/-- The most digits that a numeral may have. -/
def maxDigits : Nat := 4300

/-- The least number with more digits. -/
def numeralBound : Nat := Nat.pow 10 maxDigits

/-- The decimal numeral of an integer, unless it has too many digits. -/
def numeral? (number : Int) : Option String :=
  if (decimalDigits number.natAbs).length ≤ maxDigits then
    some (showInt number)
  else
    none

theorem length_decimalDigits_le_iff {number digits : Nat}
    (positive : 0 < digits) :
    (decimalDigits number).length ≤ digits ↔ number < Nat.pow 10 digits :=
  Nat.length_toDigits_le_iff (by decide) positive

theorem length_le_maxDigits_iff {number : Nat} :
    (decimalDigits number).length ≤ maxDigits ↔ number < numeralBound := by
  unfold numeralBound
  exact length_decimalDigits_le_iff (by decide)

theorem numeral?_of_lt {number : Int}
    (small : number.natAbs < numeralBound) :
    numeral? number = some (showInt number) :=
  if_pos (length_le_maxDigits_iff.mpr small)

theorem numeral?_of_le {number : Int}
    (large : numeralBound ≤ number.natAbs) : numeral? number = none :=
  if_neg fun short =>
    Nat.not_lt.mpr large (length_le_maxDigits_iff.mp short)

end SentenceChart.Text
