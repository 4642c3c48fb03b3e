import SentenceChart.Datum
import SentenceChart.Grammar.Rule

/-!
# Values as symbols

Every value but a collection can stand where a grammar or a chart has a
symbol.  Its key is a symbol that no other value has: the key of a text begins
with an equals sign, and equal numbers of all types share their exact value
as their key.  A text is found again in its key (`textOfKey?_key`).
-/

namespace SentenceChart

namespace Datum

/-- Whether a value can be a symbol. -/
def isSymbol : Datum → Bool
  | .list _ => false
  | .record _ => false
  | _ => true

/-- The symbol that stands for a value. -/
def key : Datum → Symbol
  | .text value => String.ofList ('=' :: value.toList)
  | .flag value => if value then "1" else "0"
  | .real value => String.ofList (Text.exactReal value)
  | value => String.ofList value.quoted

/-- The text that a symbol stands for. -/
def textOfKey? (symbol : Symbol) : Option String :=
  match symbol.toList with
  | '=' :: rest => some (String.ofList rest)
  | _ => none

theorem textOfKey?_key (word : String) :
    textOfKey? (key (.text word)) = some word := by
  simp [textOfKey?, key]

/-- Two texts with the same key are the same text. -/
theorem key_text_inj {left right : String}
    (same : key (.text left) = key (.text right)) : left = right := by
  have found := textOfKey?_key left
  rw [same, textOfKey?_key] at found
  exact (Option.some.inj found).symm

/-- The integer that a value is; the truth values are one and zero. -/
def integer? : Datum → Option Int
  | .integer value => some value
  | .flag value => some (if value then 1 else 0)
  | _ => none

/-- A number as a floating-point number; any other value counts as zero. -/
def asReal : Datum → Float
  | .real value => value
  | value => Float.ofInt (value.integer?.getD 0)

end Datum

end SentenceChart
