import SentenceChart.Grammar.Basic
import SentenceChart.Text.Decimal

/-!
# The text of a grammar

Each nonterminal has one line with its bodies in the order of the rules: the
symbols of a body are separated by spaces and the bodies by bars.
-/

namespace SentenceChart.Grammar

/-- The bodies of one nonterminal with a bar between them. -/
def writtenBodies (grammar : Grammar) (head : Symbol) : List Char :=
  " | ".toList.intercalate ((grammar.bodiesOf head).map Rule.writtenBody)

/-- The line of one nonterminal with its end. -/
def writtenLine (grammar : Grammar) (head : Symbol) : List Char :=
  head.toList ++ " -> ".toList ++ grammar.writtenBodies head ++ ['\n']

/-- The lines of all nonterminals. -/
def written (grammar : Grammar) : List Char :=
  grammar.nonterminals.flatMap grammar.writtenLine

def toText (grammar : Grammar) : String :=
  String.ofList grammar.written

/-- The start symbol and the number of rules. -/
def summary (grammar : Grammar) : String :=
  "Grammar(start=" ++ Text.quote grammar.start ++ ", rules=" ++
    Text.showInt grammar.rules.length ++ ")"

end SentenceChart.Grammar
