import SentenceChart.Chart.Closure
import SentenceChart.Sentence

/-!
# Filling a chart

The cells of one word hold the heads of the rules with this word.  The cell
of a longer span holds the heads of the rules with two nonterminals that derive
the two parts of the span at some cut.  Each cell is closed under the unit
rules.  The rows of the table are the cells of one length, and each row needs
the shorter ones only.
-/

namespace SentenceChart

/-- The cells of the spans of one length by their first positions. -/
abbrev Row := Array Cell

/-- The rows of a table, from the spans of one word on. -/
abbrev Table := Array Row

/-- The cell of a span by its first position and its number of words. -/
def Table.cell (table : Table) (first words : Nat) : Cell :=
  (table.getD (words - 1) #[]).getD first []

namespace Grammar

/-- The heads of the rules with a word as their body; a nonterminal is no
word. -/
def lexicalCell (grammar : Grammar) (word : String) : Cell :=
  if grammar.isTerminal word then grammar.headsOf [word] else []

/-- The two cells at every cut of a span, the shortest left part first. -/
def cuts (table : Table) (first words : Nat) : List (Cell × Cell) :=
  (List.range (words - 1)).map fun further =>
    (table.cell first (further + 1),
      table.cell (first + further + 1) (words - further - 1))

/-- Whether a rule derives the parts of a span at one of its cuts. -/
def joins (parts : List (Cell × Cell)) (rule : Rule) : Bool :=
  match rule.body with
  | [left, right] =>
      parts.any fun part => part.1.contains left && part.2.contains right
  | _ => false

/-- The cell of a span of two or more words. -/
def pairCell (grammar : Grammar) (table : Table) (first words : Nat) : Cell :=
  grammar.close
    (Rule.heads (grammar.rules.filter (joins (cuts table first words))))

/-- The row of the spans with one more word than the table has. -/
def nextRow (grammar : Grammar) (length : Nat) (table : Table) : Row :=
  ((List.range (length - table.size)).map fun first =>
    grammar.pairCell table first (table.size + 1)).toArray

/-- The row of the spans of one word. -/
def firstRow (grammar : Grammar) (tokens : List String) : Row :=
  (tokens.map fun token => grammar.close (grammar.lexicalCell token)).toArray

/-- The table with the given number of rows after the first. -/
def rows (grammar : Grammar) (tokens : List String) : Nat → Table
  | 0 => #[grammar.firstRow tokens]
  | more + 1 =>
      let table := grammar.rows tokens more
      table.push (grammar.nextRow tokens.length table)

/-- The filled chart of a sentence. -/
def fill (grammar : Grammar) (tokens : List String)
    (tokens_ne_nil : tokens ≠ []) : Chart :=
  let table := grammar.rows tokens (tokens.length - 1)
  Chart.tabulate tokens grammar.start tokens_ne_nil fun first last =>
    table.cell first (last - first + 1)

/-- The first word that is the body of no rule, with its position. -/
def unknownWord? (grammar : Grammar) (tokens : List String) :
    Option (String × Nat) :=
  tokens.zipIdx.find? fun token => (grammar.lexicalCell token.1).isEmpty

/-- The limit, if there are more words than it allows. -/
def exceeded? (limit : Option Int) (length : Nat) : Option Int :=
  limit.filter fun most => decide (most < length)

/-- The filled chart of the lower-case words.  It is missing if there are no
words, if they are over the limit, or at the first unknown word, in this
order. -/
def chart? (grammar : Grammar) (limit : Option Int) (tokens : List String) :
    Except Rejection Chart :=
  if noTokens : tokens = [] then
    .error .noTokens
  else
    match exceeded? limit tokens.length with
    | some most => .error (.tooLong tokens.length most)
    | none =>
        let words := tokens.map Sentence.lowercase
        match grammar.unknownWord? words with
        | some (word, position) => .error (.unknownWord word position)
        | none => .ok (grammar.fill words (by simpa [words] using noTokens))

end Grammar

end SentenceChart
