import SentenceChart.Text.Decimal
import SentenceChart.Text.Hexadecimal

/-!
# JSON values and their text

A record keeps the order of its members.  The text holds printable ASCII
characters only: every other character is escaped as one or two UTF-16 code
units.
-/

namespace SentenceChart

/-- A JSON value. -/
inductive Json where
  | flag (value : Bool)
  | number (value : Int)
  | text (value : String)
  | list (items : List Json)
  | record (members : List (String × Json))

namespace Json

/-- The UTF-16 code units of a code point. -/
def codeUnits (code : Nat) : List Nat :=
  if code < 0x10000 then
    [code]
  else
    [0xD800 + (code - 0x10000) / 0x400, 0xDC00 + (code - 0x10000) % 0x400]

/-- One code unit as an escape of four hexadecimal digits. -/
def escapeUnit (unit : Nat) : List Char :=
  '\\' :: 'u' :: Text.hexDigits 4 unit

/-- One character inside a text. -/
def escapeChar (c : Char) : List Char :=
  if c = Char.ofNat 0x22 then ['\\', c]
  else if c = '\\' then ['\\', c]
  else if c = '\n' then ['\\', 'n']
  else if c = '\r' then ['\\', 'r']
  else if c = '\t' then ['\\', 't']
  else if c = Char.ofNat 0xC then ['\\', 'f']
  else if c = Char.ofNat 0x8 then ['\\', 'b']
  else if 0x20 ≤ c.toNat ∧ c.toNat < 0x7F then [c]
  else (codeUnits c.toNat).flatMap escapeUnit

/-- A text between double quotes. -/
def writtenText (text : String) : List Char :=
  Char.ofNat 0x22 :: text.toList.flatMap escapeChar ++ [Char.ofNat 0x22]

mutual

/-- The text of a value on one line. -/
def written : Json → List Char
  | .flag true => "true".toList
  | .flag false => "false".toList
  | .number value => Text.decimal value
  | .text value => writtenText value
  | .list items => '[' :: writtenItems items ++ [']']
  | .record members => '\x7b' :: writtenMembers members ++ ['\x7d']

/-- The texts of values with a comma and a space between them. -/
def writtenItems : List Json → List Char
  | [] => []
  | [item] => item.written
  | item :: next :: more =>
      item.written ++ ", ".toList ++ writtenItems (next :: more)

/-- The texts of members with a comma and a space between them. -/
def writtenMembers : List (String × Json) → List Char
  | [] => []
  | [(key, value)] => writtenText key ++ ": ".toList ++ value.written
  | (key, value) :: next :: more =>
      writtenText key ++ ": ".toList ++ value.written ++ ", ".toList ++
        writtenMembers (next :: more)

end

def toText (value : Json) : String :=
  String.ofList value.written

end Json

end SentenceChart
