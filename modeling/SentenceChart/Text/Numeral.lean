import SentenceChart.Text.Blank
import SentenceChart.Text.Decimal

/-!
# Integer numerals

An integer is written with decimal digits of any script, single low lines
between digits, an optional sign before the first digit and blanks around.
-/

namespace SentenceChart.Text

/-- The digits zero of all scripts with decimal digits; the other nine follow
each of them. -/
def digitZeros : List Nat :=
  [0x30, 0x660, 0x6F0, 0x7C0, 0x966, 0x9E6, 0xA66, 0xAE6, 0xB66, 0xBE6, 0xC66,
    0xCE6, 0xD66, 0xDE6, 0xE50, 0xED0, 0xF20, 0x1040, 0x1090, 0x17E0, 0x1810,
    0x1946, 0x19D0, 0x1A80, 0x1A90, 0x1B50, 0x1BB0, 0x1C40, 0x1C50, 0xA620,
    0xA8D0, 0xA900, 0xA9D0, 0xA9F0, 0xAA50, 0xABF0, 0xFF10, 0x104A0, 0x10D30,
    0x11066, 0x110F0, 0x11136, 0x111D0, 0x112F0, 0x11450, 0x114D0, 0x11650,
    0x116C0, 0x11730, 0x118E0, 0x11950, 0x11C50, 0x11D50, 0x11DA0, 0x16A60,
    0x16AC0, 0x16B50, 0x1D7CE, 0x1D7D8, 0x1D7E2, 0x1D7EC, 0x1D7F6, 0x1E140,
    0x1E2F0, 0x1E950, 0x1FBF0]

/-- The value of a decimal digit. -/
def digitValue? (c : Char) : Option Nat :=
  let among (first : Nat) : Bool :=
    decide (first ≤ c.toNat) && decide (c.toNat < first + 10)
  (digitZeros.find? among).map (c.toNat - ·)

/-- A blank that may surround a numeral: every blank but the four information
separators. -/
def isNumeralBlank (c : Char) : Bool :=
  isBlank c && !(decide (0x1C ≤ c.toNat) && decide (c.toNat ≤ 0x1F))

/-- The digits of a numeral without sign; a low line is allowed between two
digits only. -/
def digits? : List Char → Option (List Nat)
  | [] => none
  | [c] => (digitValue? c).map ([·])
  | c :: '_' :: rest => do return (← digitValue? c) :: (← digits? rest)
  | c :: rest => do return (← digitValue? c) :: (← digits? rest)

/-- The number that decimal digits denote. -/
def ofDigits (digits : List Nat) : Nat :=
  digits.foldl (fun number digit => 10 * number + digit) 0

/-- The number that a numeral without sign and blanks denotes. -/
def natural? (text : List Char) : Option Nat :=
  ((digits? text).filter fun digits => digits.length ≤ maxDigits).map ofDigits

/-- The text without the blanks that may surround a numeral. -/
def trimNumeral (text : List Char) : List Char :=
  ((text.dropWhile isNumeralBlank).reverse.dropWhile isNumeralBlank).reverse

/-- The integer that a numeral denotes. -/
def integer? (text : List Char) : Option Int :=
  match trimNumeral text with
  | '-' :: rest => (natural? rest).map fun number => -(number : Int)
  | '+' :: rest => (natural? rest).map fun number => (number : Int)
  | rest => (natural? rest).map fun number => (number : Int)

end SentenceChart.Text
