import Mathlib.Algebra.Group.Nat.Defs
import SentenceChart.Text.Decimal
import SentenceChart.Text.Hexadecimal
import SentenceChart.Text.Numeral

/-!
# Reading numerals

A hexadecimal numeral of fixed width is read as the number modulo a power of 16
(`hexValue_hexDigits`).  A decimal numeral at the front of a text is read as the
integer that it was written for, if no digit follows (`readInteger?_decimal`).
An integer that is read from any numeral has a decimal numeral again
(`natAbs_lt_of_integer?`).
-/

namespace SentenceChart.Text

/-- The value of a lower-case hexadecimal digit. -/
def hexDigitValue (c : Char) : Nat :=
  if c.isDigit then c.toNat - '0'.toNat else c.toNat - 'a'.toNat + 10

/-- The number that hexadecimal digits stand for. -/
def hexValue (digits : List Char) : Nat :=
  digits.foldl (fun value c => 16 * value + hexDigitValue c) 0

theorem hexDigitValue_digitChar :
    ∀ digit < 16, hexDigitValue (Nat.digitChar digit) = digit := by
  decide

theorem hexValue_concat (front : List Char) (last : Char) :
    hexValue (front ++ [last]) =
      16 * hexValue front + hexDigitValue last := by
  simp [hexValue]

theorem hexValue_hexDigits (width number : Nat) :
    hexValue (hexDigits width number) = number % 16 ^ width := by
  induction width generalizing number with
  | zero => simp [hexDigits, hexValue, Nat.mod_one]
  | succ width ih =>
      have lastValue := hexDigitValue_digitChar (number % 16)
        (Nat.mod_lt _ (by decide))
      rw [hexDigits, hexValue_concat, ih, lastValue, pow_succ', Nat.mod_mul]
      omega

/-- The natural number at the front of a text, and what follows its digits. -/
def readNatural? (text : List Char) : Option (Nat × List Char) :=
  match text.takeWhile Char.isDigit with
  | [] => none
  | digits =>
      some (Nat.ofDigitChars 10 digits 0, text.dropWhile Char.isDigit)

/-- The integer at the front of a text, and what follows its digits. -/
def readInteger? (text : List Char) : Option (Int × List Char) :=
  match text with
  | '-' :: digits =>
      (readNatural? digits).map fun (number, rest) => (-number, rest)
  | _ => (readNatural? text).map fun (number, rest) => (number, rest)

/-- No digit follows. -/
def EndsNumeral (rest : List Char) : Prop :=
  ∀ c ∈ rest.head?, c.isDigit = false

theorem endsNumeral_nil : EndsNumeral [] := by
  intro c member
  cases member

theorem endsNumeral_cons {c : Char} {rest : List Char}
    (noDigit : c.isDigit = false) : EndsNumeral (c :: rest) := by
  intro first member
  cases member
  exact noDigit

theorem isDigit_of_mem_decimalDigits {number : Nat} {c : Char}
    (member : c ∈ decimalDigits number) : c.isDigit = true :=
  Nat.isDigit_of_mem_toDigits (by decide) (by decide) member

theorem readNatural?_decimalDigits (number : Nat) {rest : List Char}
    (ends : EndsNumeral rest) :
    readNatural? (decimalDigits number ++ rest) = some (number, rest) := by
  have digits : ∀ c ∈ decimalDigits number, c.isDigit = true :=
    fun _ => isDigit_of_mem_decimalDigits
  have restTaken : rest.takeWhile Char.isDigit = [] := by
    cases rest with
    | nil => rfl
    | cons c more => simp [ends c rfl]
  have restDropped : rest.dropWhile Char.isDigit = rest := by
    cases rest with
    | nil => rfl
    | cons c more => simp [ends c rfl]
  rw [readNatural?, List.takeWhile_append_of_pos digits,
    List.dropWhile_append_of_pos digits, restTaken, restDropped,
    List.append_nil]
  split
  · rename_i noDigits
    exact (Nat.toDigits_ne_nil noDigits).elim
  · rw [decimalDigits, Nat.ofDigitChars_toDigits (by decide) (by decide)]

theorem readInteger?_decimal (value : Int) {rest : List Char}
    (ends : EndsNumeral rest) :
    readInteger? (decimal value ++ rest) = some (value, rest) := by
  cases value with
  | ofNat number =>
      have read := readNatural?_decimalDigits number ends
      rw [decimal, readInteger?, read]
      · rfl
      · intro digits minus
        rw [minus] at read
        simp [readNatural?] at read
  | negSucc number =>
      rw [decimal, List.cons_append, readInteger?,
        readNatural?_decimalDigits _ ends]
      rfl

theorem readInteger?_eq_none {c : Char} {rest : List Char} (noMinus : c ≠ '-')
    (noDigit : c.isDigit = false) : readInteger? (c :: rest) = none := by
  rw [readInteger?, readNatural?, List.takeWhile_cons, noDigit]
  · rfl
  · rintro digits minus
    cases minus
    exact noMinus rfl

theorem digitValue?_lt {c : Char} {value : Nat}
    (found : digitValue? c = some value) : value < 10 := by
  obtain ⟨first, zero, rfl⟩ := Option.map_eq_some_iff.mp found
  have among := List.find?_some zero
  simp only [Bool.and_eq_true, decide_eq_true_eq] at among
  omega

theorem digits?_lt {text : List Char} {digits : List Nat}
    (found : digits? text = some digits) : ∀ digit ∈ digits, digit < 10 := by
  fun_induction digits? text generalizing digits with
  | case1 => cases found
  | case2 c =>
      obtain ⟨value, first, rfl⟩ := Option.map_eq_some_iff.mp found
      simpa using digitValue?_lt first
  | case3 c rest ih | case4 c rest _ _ ih =>
      simp only [Option.bind_eq_bind, Option.pure_def,
        Option.bind_eq_some_iff, Option.some.injEq] at found
      obtain ⟨value, first, more, others, rfl⟩ := found
      exact List.forall_mem_cons.mpr ⟨digitValue?_lt first, ih others⟩

theorem foldl_digits_lt {digits : List Nat}
    (small : ∀ digit ∈ digits, digit < 10) (number : Nat) :
    digits.foldl (fun number digit => 10 * number + digit) number <
      (number + 1) * 10 ^ digits.length := by
  induction digits generalizing number with
  | nil => simp
  | cons digit more ih =>
      obtain ⟨smallDigit, smallMore⟩ := List.forall_mem_cons.mp small
      calc
        more.foldl (fun number digit => 10 * number + digit)
              (10 * number + digit)
            < (10 * number + digit + 1) * 10 ^ more.length := ih smallMore _
        _ ≤ (number + 1) * 10 * 10 ^ more.length :=
          Nat.mul_le_mul_right _ (by omega)
        _ = (number + 1) * 10 ^ (digit :: more).length := by
          rw [List.length_cons, Nat.pow_succ', Nat.mul_assoc]

theorem ofDigits_lt {digits : List Nat} {most : Nat}
    (small : ∀ digit ∈ digits, digit < 10) (short : digits.length ≤ most) :
    ofDigits digits < Nat.pow 10 most :=
  calc
    ofDigits digits < (0 + 1) * 10 ^ digits.length := foldl_digits_lt small 0
    _ = 10 ^ digits.length := by rw [Nat.zero_add, Nat.one_mul]
    _ ≤ Nat.pow 10 most := Nat.pow_le_pow_right (by decide) short

theorem natural?_lt {text : List Char} {number : Nat}
    (found : natural? text = some number) : number < numeralBound := by
  obtain ⟨digits, allowed, rfl⟩ := Option.map_eq_some_iff.mp found
  obtain ⟨read, short⟩ := Option.filter_eq_some_iff.mp allowed
  unfold numeralBound
  exact ofDigits_lt (digits?_lt read) (of_decide_eq_true short)

theorem natAbs_lt_of_integer? {text : List Char} {number : Int}
    (found : integer? text = some number) :
    number.natAbs < numeralBound := by
  rw [integer?] at found
  split at found <;>
    simp only [Option.map_eq_some_iff, Option.bind_eq_bind, Option.pure_def,
      Option.bind_eq_some_iff, Option.some.injEq] at found
  · obtain ⟨_, ⟨size, read, rfl⟩, rfl⟩ := found
    rw [Int.natAbs_neg]
    exact natural?_lt read
  · obtain ⟨_, ⟨size, read, rfl⟩, rfl⟩ := found
    exact natural?_lt read
  · obtain ⟨_, ⟨size, read, rfl⟩, rfl⟩ := found
    exact natural?_lt read

end SentenceChart.Text
