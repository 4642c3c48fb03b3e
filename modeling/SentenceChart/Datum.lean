import SentenceChart.Text.Quoted
import SentenceChart.Text.Real

/-!
# Values of any type

Rules, start symbols and token lists may arrive from untyped sources.  A
value of any type can be shown: a text as itself, anything else in its quoted
form.  Only a number with too many digits cannot (`shown?`).  Some values can be
read as a sequence.
-/

namespace SentenceChart

/-- A value of any type. -/
inductive Datum where
  | missing
  | flag (value : Bool)
  | integer (value : Int)
  | real (value : Float)
  | text (value : String)
  | list (items : List Datum)
  | record (members : List (String × Datum))

namespace Datum

/-- What can be wrong with a value. -/
inductive Fault where
  /-- The value is no sequence. -/
  | notSequence
  /-- The value, or an item of the sequence, is no text. -/
  | notText
  /-- The value is a collection, which cannot be a symbol. -/
  | notSymbol
  /-- The values have no order in common. -/
  | notOrdered
  /-- The value is no integer. -/
  | notInteger
  /-- A number in the value has too many digits to be shown. -/
  | tooManyDigits
deriving DecidableEq

mutual

/-- The quoted form of a value. -/
def quoted : Datum → List Char
  | .missing => "None".toList
  | .flag true => "True".toList
  | .flag false => "False".toList
  | .integer value => Text.decimal value
  | .real value => Text.real value
  | .text value => Text.quoted value.toList
  | .list items => '[' :: quotedItems items ++ [']']
  | .record members => '\x7b' :: quotedMembers members ++ ['\x7d']

/-- The quoted forms of items with a comma and a space between them. -/
def quotedItems : List Datum → List Char
  | [] => []
  | [item] => item.quoted
  | item :: next :: more =>
      item.quoted ++ ", ".toList ++ quotedItems (next :: more)

/-- The quoted forms of members with a comma and a space between them. -/
def quotedMembers : List (String × Datum) → List Char
  | [] => []
  | [(key, value)] => Text.quoted key.toList ++ ": ".toList ++ value.quoted
  | (key, value) :: next :: more =>
      Text.quoted key.toList ++ ": ".toList ++ value.quoted ++ ", ".toList ++
        quotedMembers (next :: more)

end

/-- A value as it appears inside a text. -/
def shown : Datum → String
  | .text value => value
  | value => String.ofList value.quoted

mutual

/-- Whether every number in a value can be shown. -/
def isWritable : Datum → Bool
  | .integer value => (Text.numeral? value).isSome
  | .list items => areWritable items
  | .record members => haveWritable members
  | _ => true

def areWritable : List Datum → Bool
  | [] => true
  | item :: more => item.isWritable && areWritable more

def haveWritable : List (String × Datum) → Bool
  | [] => true
  | (_, value) :: more => value.isWritable && haveWritable more

end

/-- A value as it appears inside a text, if every number in it can be shown. -/
def shown? (value : Datum) : Except Fault String :=
  if value.isWritable then .ok value.shown else .error .tooManyDigits

/-- The values that stand for nothing: no value, no sentence, zero, and the
empty collections. -/
def isEmpty : Datum → Bool
  | .missing => true
  | .flag value => !value
  | .integer value => value == 0
  | .real value => value == 0
  | .text value => value.isEmpty
  | .list items => items.isEmpty
  | .record members => members.isEmpty

/-- A value as a sequence: a text is the sequence of its characters, and a
record the sequence of its keys. -/
def items? : Datum → Option (List Datum)
  | .text value => some (value.toList.map fun c => .text (String.singleton c))
  | .list items => some items
  | .record members => some (members.map fun member => .text member.1)
  | _ => none

def text? : Datum → Option String
  | .text value => some value
  | _ => none

theorem mapM_text? (words : List String) :
    (words.map text).mapM text? = some words := by
  induction words with
  | nil => rfl
  | cons word more ih => simp [List.mapM_cons, text?, ih]

/-- A value as a sequence of texts. -/
def texts? (value : Datum) : Except Fault (List String) :=
  match value.items? with
  | none => .error .notSequence
  | some items =>
      match items.mapM text? with
      | none => .error .notText
      | some texts => .ok texts

end Datum

end SentenceChart
