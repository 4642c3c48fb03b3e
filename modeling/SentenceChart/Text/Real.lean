import SentenceChart.Text.Decimal

/-!
# Numerals of floating-point numbers

A floating-point number stands for the interval of all numbers that are
rounded to it.  Its numeral has the fewest digits that name a number in this
interval, and of the numerals with so many digits the one nearest to it.  All
comparisons are made with natural numbers (`compareScaled`).  The exact numeral is
a fraction in lowest terms instead.
-/

namespace SentenceChart.Text

/-- The positive number `significand * 2 ^ exponent`. -/
structure Binary where
  /-- The digits. -/
  significand : Nat
  /-- The power of two. -/
  exponent : Int
  /-- Whether the next smaller number is half as far away as the next larger
  one. -/
  narrowBelow : Bool
deriving DecidableEq

/-- The number `digits * 10 ^ exponent`. -/
structure Scientific where
  /-- The digits as a number. -/
  digits : Nat
  /-- The power of ten. -/
  exponent : Int
deriving DecidableEq

/-- The finite number with the given bits; the sign bit is left out. -/
def Binary.ofBits (bits : Nat) : Binary :=
  let biased : Nat := bits / Nat.pow 2 52 % Nat.pow 2 11
  let fraction : Nat := bits % Nat.pow 2 52
  if biased = 0 then
    ⟨fraction, -1074, false⟩
  else
    ⟨Nat.pow 2 52 + fraction, (biased : Int) - 1075,
      fraction == 0 && biased != 1⟩

/-- Compares a decimal number with `significand * 2 ^ exponent`. -/
def compareScaled (decimal : Scientific) (significand : Nat) (exponent : Int) :
    Ordering :=
  compare
    (decimal.digits * Nat.pow 10 decimal.exponent.toNat *
      Nat.pow 2 (-exponent).toNat)
    (significand * Nat.pow 2 exponent.toNat *
      Nat.pow 10 (-decimal.exponent).toNat)

namespace Binary

/-- Whether a decimal number is rounded to the number.  The ends of the
interval are in it if the significand is even. -/
def readsBack (number : Binary) (decimal : Scientific) : Bool :=
  let quarters := 4 * number.significand
  let below := if number.narrowBelow then quarters - 1 else quarters - 2
  let withEnds := number.significand % 2 == 0
  let fromBelow := compareScaled decimal below (number.exponent - 2)
  let fromAbove := compareScaled decimal (quarters + 2) (number.exponent - 2)
  (fromBelow == .gt || withEnds && fromBelow == .eq) &&
    (fromAbove == .lt || withEnds && fromAbove == .eq)

/-- The least power of ten above the number.  The binary logarithm misses it
by two at most. -/
def scale (number : Binary) : Int :=
  let logarithm := (number.significand.log2 : Int) + number.exponent
  let guess := Int.fdiv (logarithm * 30103) 100000
  (([guess, guess + 1].find? fun power =>
    compareScaled ⟨1, power⟩ number.significand number.exponent ==
      .gt).getD (guess + 2))

/-- The largest multiple of a power of ten that is not above the number. -/
def floorAt (number : Binary) (power : Int) : Nat :=
  number.significand * Nat.pow 2 number.exponent.toNat *
      Nat.pow 10 (-power).toNat /
    (Nat.pow 2 (-number.exponent).toNat * Nat.pow 10 power.toNat)

/-- The multiple of a power of ten that is nearest to the number among those
that are rounded to it, if there is one; of two equally near ones the even
one. -/
def nearestAt? (number : Binary) (power : Int) : Option Scientific :=
  let low := number.floorAt power
  let half := compareScaled ⟨5 * (2 * low + 1), power - 1⟩ number.significand
    number.exponent
  let lowFirst := half == .gt || half == .eq && low % 2 == 0
  let choices : List Scientific :=
    if lowFirst then [⟨low, power⟩, ⟨low + 1, power⟩]
    else [⟨low + 1, power⟩, ⟨low, power⟩]
  choices.find? number.readsBack

/-- The decimal number with the fewest digits that is rounded to the number;
seventeen digits are enough. -/
def shortest? (number : Binary) : Option Scientific :=
  (List.range 17).findSome? fun (more : Nat) =>
    number.nearestAt? (number.scale - ((more : Int) + 1))

/-- The number itself as a decimal number. -/
def exactDecimal (number : Binary) : Scientific :=
  ⟨number.significand * Nat.pow 2 number.exponent.toNat *
      Nat.pow 5 (-number.exponent).toNat, -((-number.exponent).toNat : Int)⟩

/-- The decimal number that stands for the number. -/
def shortest (number : Binary) : Scientific :=
  number.shortest?.getD number.exactDecimal

/-- The exact value as a numerator and a denominator without a common
divisor. -/
def ratio (number : Binary) : Nat × Nat :=
  let numerator := number.significand * Nat.pow 2 number.exponent.toNat
  let denominator := Nat.pow 2 (-number.exponent).toNat
  let divisor := numerator.gcd denominator
  (numerator / divisor, denominator / divisor)

end Binary

/-- The digits without the zeros at their end. -/
def dropTrailingZeros (digits : List Char) : List Char :=
  (digits.reverse.dropWhile (· == '0')).reverse

/-- A positive number with the given digits, the point standing `point` places
after the first: in positional notation from `10 ^ -4` up to `10 ^ 16`, with an
exponent of at least two digits elsewhere. -/
def positional (digits : List Char) (point : Int) : List Char :=
  if -4 < point ∧ point ≤ 0 then
    '0' :: '.' :: List.replicate point.natAbs '0' ++ digits
  else if 0 < point ∧ point ≤ 16 then
    let whole := digits.take point.toNat
    let rest := digits.drop point.toNat
    whole ++ List.replicate (point.toNat - whole.length) '0' ++ '.' ::
      (if rest.isEmpty then ['0'] else rest)
  else
    let exponent := point - 1
    let size := decimalDigits exponent.natAbs
    digits.take 1 ++
      (if digits.length ≤ 1 then [] else '.' :: digits.drop 1) ++
      'e' :: (if exponent < 0 then '-' else '+') ::
      (if size.length < 2 then '0' :: size else size)

/-- The numeral of a decimal number. -/
def Scientific.written (decimal : Scientific) : List Char :=
  if decimal.digits = 0 then
    "0.0".toList
  else
    let digits := decimalDigits decimal.digits
    positional (dropTrailingZeros digits)
      ((digits.length : Int) + decimal.exponent)

/-- The numeral of a floating-point number. -/
def real (value : Float) : List Char :=
  let bits := value.toBits.toNat
  let sign := if bits < Nat.pow 2 63 then [] else ['-']
  if value.isNaN then
    "nan".toList
  else if value.isInf then
    sign ++ "inf".toList
  else
    sign ++ (Binary.ofBits bits).shortest.written

/-- The exact value of a floating-point number; an integer has the numeral of
an integer. -/
def exactReal (value : Float) : List Char :=
  if value.isNaN || value.isInf then
    real value
  else
    let (numerator, denominator) := (Binary.ofBits value.toBits.toNat).ratio
    (if value < 0 then ['-'] else []) ++ decimalDigits numerator ++
      (if denominator = 1 then [] else '/' :: decimalDigits denominator)

end SentenceChart.Text
