import SentenceChart.Diagnosis
import SentenceChart.Loose.Grammar
import SentenceChart.Loose.Order
import SentenceChart.Tree.Rebuild
import SentenceChart.Tree.Written

/-!
# Charts of any values

Any values can be the words, the start symbol and the members of the cells of
a chart.  The chart inside holds their keys; the values are kept beside it and
found again by their keys.  A span can be given by any values too.
-/

namespace SentenceChart

namespace Tree

mutual

/-- The tree with other labels. -/
def relabel (label : Symbol → Symbol) : Tree → Tree
  | .node symbol children word =>
      .node (label symbol) (relabelAll label children) word

/-- Several trees with other labels. -/
def relabelAll (label : Symbol → Symbol) : List Tree → List Tree
  | [] => []
  | tree :: more => tree.relabel label :: relabelAll label more

end

end Tree

/-- A chart of any values. -/
structure LooseChart where
  /-- The chart of the keys. -/
  keys : Chart
  /-- The words. -/
  tokens : List Datum
  /-- The symbol that the whole sentence is tested for. -/
  start : Datum
  /-- The values that were added to cells, with the spans of these. -/
  added : List ((Nat × Nat) × Datum)

/-- Why two values are no span. -/
inductive SpanFault where
  /-- A value cannot be a position. -/
  | fault (fault : Datum.Fault)
  /-- The values are no span of a sentence of that length. -/
  | outside (first last : Datum) (length : Nat)

/-- The text of the fault, if it has one that can be written. -/
def SpanFault.message? : SpanFault → Except Datum.Fault String
  | .fault reason => .error reason
  | .outside first last length => do
      return Span.outsideText (← first.shown?) (← last.shown?) length

namespace LooseChart

/-- A chart of texts. -/
def ofChart (chart : Chart) : LooseChart where
  keys :=
    Chart.tabulate (chart.tokens.map fun token => Datum.key (.text token))
      (Datum.key (.text chart.start))
      (by simpa using chart.tokens_ne_nil)
      fun first last =>
        (chart.cell first last).map fun symbol => Datum.key (.text symbol)
  tokens := chart.tokens.map .text
  start := .text chart.start
  added := []

/-- The chart of a sequence of values whose cells are all empty. -/
def empty? (tokens : List Datum) (start : Datum) :
    Except ChartError LooseChart :=
  (Chart.empty? (tokens.map Datum.key) start.key).map fun keys =>
    ⟨keys, tokens, start, []⟩

/-- Whether two values are positions in order and inside the sentence, tested
from left to right. -/
def isWithin? (chart : LooseChart) (first last : Datum) :
    Except Datum.Fault Bool :=
  match Datum.isAtMost? (.integer 0) first with
  | .ok true =>
      match first.isAtMost? last with
      | .ok true => last.isBelow? (.integer chart.keys.length)
      | other => other
  | other => other

/-- The span with the given positions. -/
def span? (chart : LooseChart) (first last : Datum) :
    Except SpanFault (Nat × Nat) :=
  match chart.isWithin? first last with
  | .error fault => .error (.fault fault)
  | .ok false => .error (.outside first last chart.keys.length)
  | .ok true =>
      match first.integer?, last.integer? with
      | some first, some last => .ok (first.toNat, last.toNat)
      | _, _ => .error (.fault .notInteger)

/-- The index of the span with the given positions.  Between positions that
are no integers it is computed in the same way. -/
def place? (chart : LooseChart) (first last : Datum) :
    Except SpanFault Datum :=
  match chart.span? first last with
  | .ok (first, last) =>
      .ok (.integer (Span.place chart.keys.length first last))
  | .error (.fault .notInteger) =>
      let start := first.asReal
      let length := Float.ofNat chart.keys.length
      let row := (start * (2 * length - start + 1) / 2).floor
      .ok (.real (row + last.asReal - start))
  | .error fault => .error fault

/-- The value with a key in a cell. -/
def value (chart : LooseChart) (span : Nat × Nat) (key : Symbol) : Datum :=
  match Datum.textOfKey? key with
  | some text => .text text
  | none =>
      match chart.added.find? fun entry =>
          entry.1 == span && entry.2.key == key with
      | some entry => entry.2
      | none => .missing

/-- The values in a cell in order. -/
def cell (chart : LooseChart) (span : Nat × Nat) :
    Except Datum.Fault (List Datum) :=
  Datum.sorted? ((chart.keys.cell span.1 span.2).map (chart.value span))

/-- The spans whose cells are not empty, with their values in order. -/
def filledCells (chart : LooseChart) :
    Except Datum.Fault (List (Nat × Nat × List Datum)) :=
  chart.keys.filledCells.mapM fun (first, last, _) =>
    (chart.cell (first, last)).map fun values => (first, last, values)

/-- The chart with one more value in a cell.  A value that is equal to one in
the cell changes nothing. -/
def add (chart : LooseChart) (span : Nat × Nat) (value : Datum) : LooseChart :=
  if (chart.keys.cell span.1 span.2).contains value.key then
    chart
  else
    { chart with
      keys := chart.keys.modify span.1 span.2 (Cell.add value.key)
      added := chart.added ++ [(span, value)] }

/-- The chart without a value in a cell. -/
def discard (chart : LooseChart) (span : Nat × Nat) (value : Datum) :
    LooseChart :=
  { chart with
    keys := chart.keys.modify span.1 span.2 (Cell.discard value.key)
    added := chart.added.filter fun entry =>
      !(entry.1 == span && entry.2.key == value.key) }

/-- The chart with a cell closed under the unit rules of a grammar. -/
def close (chart : LooseChart) (span : Nat × Nat) (grammar : LooseGrammar) :
    LooseChart :=
  { chart with keys := chart.keys.modify span.1 span.2 grammar.keyed.close }

/-- Whether the start symbol is in the cell of the whole sentence. -/
def accepted (chart : LooseChart) : Except Datum.Fault Bool :=
  if chart.start.isSymbol then .ok chart.keys.accepted else .error .notSymbol

/-- The chart of texts with the same cells; a value that is no text is no
category. -/
def categories (chart : LooseChart) : Chart :=
  Chart.tabulate chart.keys.tokens chart.keys.start chart.keys.tokens_ne_nil
    fun first last =>
      (chart.keys.cell first last).map fun key =>
        (Datum.textOfKey? key).getD ""

/-- The word at a position as it appears in a tree; a missing one does not. -/
def shownWord (chart : LooseChart) (position : Nat) : Option String :=
  match chart.tokens.getD position .missing with
  | .missing => none
  | token => some token.shown

/-- The tree of a value over the whole sentence. -/
def tree (chart : LooseChart) (grammar : LooseGrammar) (symbol : Datum) :
    Except Datum.Fault Tree :=
  if symbol.isSymbol then
    let label (key : Symbol) : Symbol :=
      (Datum.textOfKey? key).getD symbol.shown
    let keyed := chart.keys.treeShowing grammar.keyed chart.shownWord 0
      (chart.keys.length - 1) [] symbol.key
    .ok (keyed.relabel label)
  else
    .error .notSymbol

end LooseChart

end SentenceChart
