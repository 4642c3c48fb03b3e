import SentenceChart.Chart.Span
import SentenceChart.Datum
import SentenceChart.Grammar.Rule

/-!
# Charts

A chart holds a set of symbols for every span of a sentence.  `cell` reads
and `modify` changes the cell of one span; a span outside the sentence has no
cell, and `span?` says so.
-/

namespace SentenceChart

/-- A set of symbols as a list; their order has no meaning. -/
abbrev Cell := List Symbol

/-- The symbols of a cell by their code points. -/
def Cell.sorted (cell : Cell) : List Symbol :=
  cell.mergeSort fun left right => !decide (right < left)

/-- The cell with one more symbol. -/
def Cell.add (symbol : Symbol) (cell : Cell) : Cell :=
  cell.insert symbol

/-- The cell without a symbol, which need not be there. -/
def Cell.discard (symbol : Symbol) (cell : Cell) : Cell :=
  cell.filter (· != symbol)

/-- The table of all spans of one sentence. -/
structure Chart where
  /-- The words of the sentence. -/
  tokens : List String
  /-- The symbol that the whole sentence is tested for. -/
  start : Symbol
  /-- The cells of the spans in the order of their places. -/
  cells : Array Cell
  /-- A sentence has a word. -/
  tokens_ne_nil : tokens ≠ []
  /-- Every span has a cell. -/
  size_cells : cells.size = Span.count tokens.length

/-- Why there is no chart or no cell. -/
inductive ChartError where
  /-- The sentence has no words. -/
  | noTokens
  /-- The positions are no span of a sentence of that length. -/
  | outside (first last : Int) (length : Nat)

/-- The text about positions that are no span of a sentence of that length. -/
def Span.outsideText (first last : String) (length : Nat) : String :=
  "span (" ++ first ++ ", " ++ last ++ ") outside sentence of length " ++
    Text.showInt length

/-- The text of the error, if the positions that it names can be written. -/
def ChartError.message? : ChartError → Option String
  | .noTokens => some "a chart needs at least one token"
  | .outside first last length => do
      return Span.outsideText (← Text.numeral? first) (← Text.numeral? last)
        length

namespace Chart

/-- The number of words. -/
def length (chart : Chart) : Nat :=
  chart.tokens.length

/-- The chart with the given cells. -/
def tabulate (tokens : List String) (start : Symbol)
    (tokens_ne_nil : tokens ≠ []) (cellAt : Nat → Nat → Cell) : Chart where
  tokens := tokens
  start := start
  cells :=
    ((Span.all tokens.length).map fun span => cellAt span.1 span.2).toArray
  tokens_ne_nil := tokens_ne_nil
  size_cells := by simp [Span.length_all]

/-- The chart of a sentence whose cells are all empty. -/
def empty? (tokens : List String) (start : Symbol) : Except ChartError Chart :=
  if noTokens : tokens = [] then
    .error .noTokens
  else
    .ok (tabulate tokens start noTokens fun _ _ => [])

/-- Whether the positions are a span of the sentence. -/
def isSpan (chart : Chart) (first last : Nat) : Bool :=
  decide (first ≤ last) && decide (last < chart.length)

/-- The cell of a span, which is empty outside the sentence. -/
def cell (chart : Chart) (first last : Nat) : Cell :=
  if chart.isSpan first last then
    chart.cells.getD (Span.place chart.length first last) []
  else
    []

/-- The chart with another cell for one span. -/
def modify (chart : Chart) (first last : Nat) (change : Cell → Cell) : Chart :=
  if chart.isSpan first last then
    { chart with
      cells :=
        chart.cells.modify (Span.place chart.length first last) change
      size_cells := by rw [Array.size_modify, chart.size_cells] }
  else
    chart

/-- The span with the given positions, which may be any integers. -/
def span? (chart : Chart) (first last : Int) : Except ChartError (Nat × Nat) :=
  if 0 ≤ first ∧ first ≤ last ∧ last < chart.length then
    .ok (first.toNat, last.toNat)
  else
    .error (.outside first last chart.length)

/-- The index of the span with the given positions. -/
def place? (chart : Chart) (first last : Int) : Except ChartError Nat :=
  (chart.span? first last).map fun span =>
    Span.place chart.length span.1 span.2

/-- The cell of the whole sentence. -/
def whole (chart : Chart) : Cell :=
  chart.cell 0 (chart.length - 1)

/-- Whether the start symbol is in the cell of the whole sentence. -/
def accepted (chart : Chart) : Bool :=
  chart.whole.contains chart.start

/-- The spans whose cells are not empty, with their symbols by code points. -/
def filledCells (chart : Chart) : List (Nat × Nat × List Symbol) :=
  (Span.all chart.length).filterMap fun (first, last) =>
    let symbols := chart.cell first last
    if symbols.isEmpty then none else some (first, last, Cell.sorted symbols)

/-- The length of the sentence and whether it is accepted. -/
def summary (chart : Chart) : String :=
  "Chart(n=" ++ Text.showInt chart.length ++ ", accepted=" ++
    (Datum.flag chart.accepted).shown ++ ")"

theorem isSpan_iff {chart : Chart} {first last : Nat} :
    chart.isSpan first last = true ↔ first ≤ last ∧ last < chart.length := by
  simp [isSpan]

theorem cell_eq_nil_of_not_isSpan {chart : Chart} {first last : Nat}
    (outside : chart.isSpan first last = false) :
    chart.cell first last = [] := by
  simp [cell, outside]

/-- The cells of a tabulated chart are the given ones. -/
theorem cell_tabulate {tokens : List String} {start : Symbol}
    {tokens_ne_nil : tokens ≠ []} {cellAt : Nat → Nat → Cell}
    {first last : Nat} (ordered : first ≤ last)
    (inside : last < tokens.length) :
    (tabulate tokens start tokens_ne_nil cellAt).cell first last =
      cellAt first last := by
  have span : (tabulate tokens start tokens_ne_nil cellAt).isSpan first last =
      true :=
    isSpan_iff.mpr ⟨ordered, inside⟩
  rw [cell, if_pos span]
  simp [tabulate, length, Array.getD_eq_getD_getElem?,
    Span.getElem?_all_place ordered inside]

theorem length_modify (chart : Chart) (first last : Nat)
    (change : Cell → Cell) :
    (chart.modify first last change).length = chart.length := by
  rw [modify]
  split <;> rfl

/-- A changed cell is what the change makes of it. -/
theorem cell_modify_self {chart : Chart} {first last : Nat}
    (change : Cell → Cell) (span : chart.isSpan first last = true) :
    (chart.modify first last change).cell first last =
      change (chart.cell first last) := by
  obtain ⟨ordered, inside⟩ := isSpan_iff.mp span
  have stored : Span.place chart.length first last < chart.cells.size := by
    rw [chart.size_cells]
    exact Span.place_lt_count ordered inside
  have span' : (chart.modify first last change).isSpan first last = true :=
    isSpan_iff.mpr ⟨ordered, by rwa [length_modify]⟩
  rw [cell, if_pos span', cell, if_pos span, length_modify]
  simp [modify, span, stored, Array.getElem_modify_self]

/-- Every other cell stays as it is. -/
theorem cell_modify_of_ne {chart : Chart} {first last first' last' : Nat}
    (change : Cell → Cell) (different : (first, last) ≠ (first', last')) :
    (chart.modify first last change).cell first' last' =
      chart.cell first' last' := by
  by_cases span : chart.isSpan first last = true
  · by_cases span' : chart.isSpan first' last' = true
    · obtain ⟨ordered, inside⟩ := isSpan_iff.mp span
      obtain ⟨ordered', inside'⟩ := isSpan_iff.mp span'
      have apart : Span.place chart.length first last ≠
          Span.place chart.length first' last' := by
        intro same
        obtain ⟨rfl, rfl⟩ :=
          Span.place_inj ordered inside ordered' inside' same
        exact different rfl
      have kept : (chart.modify first last change).isSpan first' last' = true :=
        isSpan_iff.mpr ⟨ordered', by rwa [length_modify]⟩
      rw [cell, if_pos kept, cell, if_pos span', length_modify]
      simp [modify, span, Array.getD_eq_getD_getElem?, Array.getElem?_modify,
        apart]
    · have lost :
          ¬(chart.modify first last change).isSpan first' last' = true := by
        rwa [isSpan_iff, length_modify, ← isSpan_iff]
      rw [cell, if_neg lost, cell, if_neg span']
  · rw [modify, if_neg span]

end Chart

end SentenceChart
