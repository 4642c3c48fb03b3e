import SentenceChart.Proofs.Chart.Admission
import SentenceChart.Proofs.Derivation

/-!
# The filled chart is exact

A table is exact if its cells hold what derives the words of their spans.  The
first row is exact, and the next row of an exact table keeps it exact, because
the cells at the cuts of a span belong to shorter spans.  A filled chart takes
its cells from the last table, so it holds exactly what is derivable.
-/

namespace SentenceChart

/-- The words of a span by its first position and their number. -/
def Span.part (tokens : List String) (first words : Nat) : List String :=
  (tokens.drop first).take words

theorem Span.length_part {tokens : List String} {first words : Nat}
    (inside : first + words ≤ tokens.length) :
    (Span.part tokens first words).length = words := by
  rw [Span.part, List.length_take, List.length_drop]
  omega

theorem Span.take_part {tokens : List String} {first words count : Nat}
    (shorter : count ≤ words) :
    (Span.part tokens first words).take count =
      Span.part tokens first count := by
  rw [Span.part, Span.part, List.take_take, Nat.min_eq_left shorter]

theorem Span.drop_part (tokens : List String) (first words count : Nat) :
    (Span.part tokens first words).drop count =
      Span.part tokens (first + count) (words - count) := by
  rw [Span.part, Span.part, List.drop_take, List.drop_drop]

theorem Span.part_one {tokens : List String} {first : Nat}
    (inside : first < tokens.length) :
    Span.part tokens first 1 = [tokens[first]] := by
  rw [Span.part, List.drop_eq_getElem_cons inside, List.take_succ_cons,
    List.take_zero]

theorem Span.part_all (tokens : List String) :
    Span.part tokens 0 tokens.length = tokens := by
  rw [Span.part, List.drop_zero, List.take_length]

namespace Table

theorem cell_push_of_le {table : Table} {row : Row} {first words : Nat}
    (positive : 0 < words) (shorter : words ≤ table.size) :
    Table.cell (table.push row) first words = table.cell first words := by
  have old : words - 1 < table.size := by omega
  simp [Table.cell, Array.getElem?_push, Nat.ne_of_lt old]

theorem cell_push_last {table : Table} {row : Row} {first : Nat} :
    Table.cell (table.push row) first (table.size + 1) = row.getD first [] := by
  simp [Table.cell]

/-- The cells of a table hold what derives the words of their spans. -/
def Exact (grammar : Grammar) (tokens : List String) (table : Table) : Prop :=
  ∀ first words, 0 < words → words ≤ table.size →
    first + words ≤ tokens.length → ∀ symbol,
      symbol ∈ table.cell first words ↔
        grammar.Derives symbol (Span.part tokens first words)

end Table

namespace Grammar

theorem mem_lexicalCell_iff {grammar : Grammar} {word : String}
    {symbol : Symbol} :
    symbol ∈ grammar.lexicalCell word ↔
      grammar.DerivesDirectly symbol [word] := by
  have noCut : ¬grammar.HasCut symbol [word] :=
    fun cut => Nat.lt_irrefl 1 cut.one_lt_length
  have onlyWord : grammar.DerivesDirectly symbol [word] ↔
      grammar.isTerminal word = true ∧
        (⟨symbol, [word]⟩ : Rule) ∈ grammar.rules := by
    simp [DerivesDirectly, noCut]
  rw [onlyWord, lexicalCell]
  by_cases terminal : grammar.isTerminal word = true
  · rw [if_pos terminal, mem_headsOf_iff, and_iff_right terminal]
  · rw [if_neg terminal]
    simp [terminal]

/-- A rule joins the parts of a span if it has two symbols that are in the two
cells at some cut. -/
theorem joins_cuts_iff {table : Table} {first words : Nat} {rule : Rule} :
    joins (cuts table first words) rule = true ↔
      ∃ left right further, rule.body = [left, right] ∧ further < words - 1 ∧
        left ∈ table.cell first (further + 1) ∧
        right ∈ table.cell (first + further + 1) (words - further - 1) := by
  rw [joins]
  split
  · rename_i left right bodyEq
    constructor
    · intro joined
      have atCut : ∃ further < words - 1,
          left ∈ table.cell first (further + 1) ∧
            right ∈ table.cell (first + further + 1) (words - further - 1) := by
        simpa [cuts] using joined
      obtain ⟨further, early, members⟩ := atCut
      exact ⟨left, right, further, bodyEq, early, members⟩
    · rintro ⟨left', right', further, bodyEq', early, members⟩
      cases bodyEq.symm.trans bodyEq'
      simpa [cuts] using ⟨further, early, members⟩
  · rename_i notPair
    simp only [Bool.false_eq_true, false_iff]
    rintro ⟨left, right, _, bodyEq, _⟩
    exact notPair left right bodyEq

/-- In an exact table the rules that join the parts of a span are those that
derive its words at a cut. -/
theorem mem_heads_joins_iff {grammar : Grammar} {tokens : List String}
    {table : Table} (exact : table.Exact grammar tokens) {first words : Nat}
    (next : words = table.size + 1) (inside : first + words ≤ tokens.length)
    (symbol : Symbol) :
    symbol ∈ Rule.heads
        (grammar.rules.filter (joins (cuts table first words))) ↔
      grammar.HasCut symbol (Span.part tokens first words) := by
  simp only [Rule.mem_heads_iff, List.mem_filter, joins_cuts_iff]
  constructor
  · rintro ⟨⟨head, body⟩, ⟨member, left, right, further, rfl, early,
      leftMember, rightMember⟩, rfl⟩
    refine ⟨further + 1, [left, right], mem_bodiesOf_iff.mpr member,
      left, right, rfl, ?_, ?_⟩
    · rw [Span.take_part (by omega)]
      exact (exact _ _ (by omega) (by omega) (by omega) _).mp leftMember
    · rw [Span.drop_part]
      exact (exact _ _ (by omega) (by omega) (by omega) _).mp rightMember
  · rintro ⟨size, body, member, splits⟩
    have bounds := splits.size_bounds
    rw [Span.length_part inside] at bounds
    obtain ⟨further, rfl⟩ : ∃ further, size = further + 1 :=
      ⟨size - 1, by omega⟩
    obtain ⟨left, right, rfl, leftDerives, rightDerives⟩ := splits
    rw [Span.take_part (by omega)] at leftDerives
    rw [Span.drop_part] at rightDerives
    refine ⟨⟨symbol, [left, right]⟩, ⟨mem_bodiesOf_iff.mp member, left, right,
      further, rfl, by omega, ?_, ?_⟩, rfl⟩
    · exact (exact _ _ (by omega) (by omega) (by omega) _).mpr leftDerives
    · exact (exact _ _ (by omega) (by omega) (by omega) _).mpr rightDerives

theorem mem_pairCell_iff {grammar : Grammar} {tokens : List String}
    {table : Table} (exact : table.Exact grammar tokens)
    (nonempty : 0 < table.size) {first words : Nat}
    (next : words = table.size + 1) (inside : first + words ≤ tokens.length)
    (symbol : Symbol) :
    symbol ∈ grammar.pairCell table first words ↔
      grammar.Derives symbol (Span.part tokens first words) := by
  apply mem_close_iff_derives
  intro target
  rw [mem_heads_joins_iff exact next inside, DerivesDirectly]
  constructor
  · exact .inr
  · rintro (⟨word, single, _⟩ | cut)
    · have length := Span.length_part inside
      rw [single, List.length_singleton] at length
      omega
    · exact cut

theorem exact_firstRow (grammar : Grammar) (tokens : List String) :
    Table.Exact grammar tokens #[grammar.firstRow tokens] := by
  intro first words positive small inside symbol
  have one : words = 1 := by
    have atMost : words ≤ 1 := small
    omega
  subst one
  have position : first < tokens.length := inside
  have cell : Table.cell #[grammar.firstRow tokens] first 1 =
      grammar.close (grammar.lexicalCell tokens[first]) := by
    simp [Table.cell, firstRow, position]
  rw [cell, Span.part_one position]
  exact mem_close_iff_derives (fun _ => mem_lexicalCell_iff) symbol

theorem exact_push_nextRow {grammar : Grammar} {tokens : List String}
    {table : Table} (exact : table.Exact grammar tokens)
    (nonempty : 0 < table.size) :
    Table.Exact grammar tokens
      (table.push (grammar.nextRow tokens.length table)) := by
  intro first words positive small inside symbol
  rw [Array.size_push] at small
  by_cases next : words = table.size + 1
  · have position : first < tokens.length - table.size := by omega
    have cell : Table.cell (table.push (grammar.nextRow tokens.length table))
        first words = grammar.pairCell table first words := by
      rw [next, Table.cell_push_last]
      simp [nextRow, position]
    rw [cell]
    exact mem_pairCell_iff exact nonempty next inside symbol
  · rw [Table.cell_push_of_le positive (by omega)]
    exact exact first words positive (by omega) inside symbol

theorem size_rows (grammar : Grammar) (tokens : List String) (more : Nat) :
    (grammar.rows tokens more).size = more + 1 := by
  induction more with
  | zero => rfl
  | succ more ih => rw [rows, Array.size_push, ih]

theorem exact_rows (grammar : Grammar) (tokens : List String) (more : Nat) :
    (grammar.rows tokens more).Exact grammar tokens := by
  induction more with
  | zero => exact exact_firstRow grammar tokens
  | succ more ih =>
      apply exact_push_nextRow ih
      rw [size_rows]
      omega

end Grammar

namespace Chart

theorem length_pos (chart : Chart) : 0 < chart.length :=
  List.length_pos_iff.mpr chart.tokens_ne_nil

theorem last_lt (chart : Chart) : chart.length - 1 < chart.length :=
  Nat.sub_lt chart.length_pos Nat.one_pos

/-- The words of a span. -/
def words (chart : Chart) (first last : Nat) : List String :=
  Span.part chart.tokens first (last - first + 1)

theorem length_words {chart : Chart} {first last : Nat}
    (ordered : first ≤ last) (inside : last < chart.length) :
    (chart.words first last).length = last - first + 1 := by
  rw [length] at inside
  exact Span.length_part (by omega)

theorem words_whole (chart : Chart) :
    chart.words 0 (chart.length - 1) = chart.tokens := by
  have count : chart.length - 1 - 0 + 1 = chart.tokens.length := by
    have positive := chart.length_pos
    rw [length] at positive ⊢
    omega
  rw [words, count, Span.part_all]

theorem take_words {chart : Chart} {first cut last : Nat}
    (before : cut ≤ last) :
    (chart.words first last).take (cut - first + 1) =
      chart.words first cut :=
  Span.take_part (by omega)

theorem drop_words {chart : Chart} {first cut last : Nat}
    (ordered : first ≤ cut) (before : cut < last) :
    (chart.words first last).drop (cut - first + 1) =
      chart.words (cut + 1) last := by
  have start : first + (cut - first + 1) = cut + 1 := by omega
  have count : last - first + 1 - (cut - first + 1) = last - (cut + 1) + 1 := by
    omega
  rw [words, Span.drop_part, start, count, words]

theorem words_append {chart : Chart} {first cut last : Nat}
    (ordered : first ≤ cut) (before : cut < last) :
    chart.words first cut ++ chart.words (cut + 1) last =
      chart.words first last := by
  rw [← take_words (Nat.le_of_lt before), ← drop_words ordered before,
    List.take_append_drop]

/-- The chart holds what its grammar derives from the words of each span, and
all its words are terminals. -/
structure IsExact (chart : Chart) (grammar : Grammar) : Prop where
  start_eq : chart.start = grammar.start
  mem_terminals : ∀ word ∈ chart.tokens, word ∈ grammar.terminals
  mem_cell_iff : ∀ {first last : Nat}, first ≤ last → last < chart.length →
    ∀ symbol, symbol ∈ chart.cell first last ↔
      grammar.Derives symbol (chart.words first last)

theorem IsExact.isTerminal_of_mem {chart : Chart} {grammar : Grammar}
    (exact : chart.IsExact grammar) {word : String}
    (member : word ∈ chart.tokens) : grammar.isTerminal word = true :=
  (Grammar.mem_terminals_iff.mp (exact.mem_terminals word member)).1

theorem IsExact.mem_whole_iff {chart : Chart} {grammar : Grammar}
    (exact : chart.IsExact grammar) (symbol : Symbol) :
    symbol ∈ chart.whole ↔ grammar.Derives symbol chart.tokens := by
  rw [whole, exact.mem_cell_iff (Nat.zero_le _) chart.last_lt, words_whole]

theorem IsExact.accepted_iff {chart : Chart} {grammar : Grammar}
    (exact : chart.IsExact grammar) :
    chart.accepted = true ↔ grammar.Derives grammar.start chart.tokens := by
  rw [accepted, List.contains_iff_mem, exact.mem_whole_iff, exact.start_eq]

end Chart

namespace Grammar

theorem isExact_fill (grammar : Grammar) {tokens : List String}
    (tokens_ne_nil : tokens ≠ [])
    (known : ∀ word ∈ tokens, word ∈ grammar.terminals) :
    (grammar.fill tokens tokens_ne_nil).IsExact grammar where
  start_eq := rfl
  mem_terminals := known
  mem_cell_iff := by
    intro first last ordered inside symbol
    have insideTokens : last < tokens.length := inside
    rw [fill, Chart.cell_tabulate ordered insideTokens]
    apply exact_rows
    · omega
    · rw [size_rows]
      omega
    · omega

theorem isExact_of_chart? {grammar : Grammar} {limit : Option Int}
    {tokens : List String} {chart : Chart}
    (filled : grammar.chart? limit tokens = .ok chart) :
    chart.IsExact grammar := by
  obtain ⟨words_ne_nil, _, known, rfl⟩ := chart?_eq_ok_iff.mp filled
  exact isExact_fill grammar words_ne_nil known

theorem mem_cell_iff_of_chart? {grammar : Grammar} {limit : Option Int}
    {tokens : List String} {chart : Chart}
    (filled : grammar.chart? limit tokens = .ok chart) {first last : Nat}
    (ordered : first ≤ last) (inside : last < tokens.length)
    (symbol : Symbol) :
    symbol ∈ chart.cell first last ↔
      grammar.Derives symbol
        ((tokens.map Sentence.lowercase).extract first (last + 1)) := by
  have words := tokens_of_chart? filled
  have insideChart : last < chart.length := by
    rwa [Chart.length, words, List.length_map]
  have count : last + 1 - first = last - first + 1 := by omega
  rw [(isExact_of_chart? filled).mem_cell_iff ordered insideChart, Chart.words,
    words, Span.part, List.extract_eq_take_drop, count]

theorem accepted_iff_of_chart? {grammar : Grammar} {limit : Option Int}
    {tokens : List String} {chart : Chart}
    (filled : grammar.chart? limit tokens = .ok chart) :
    chart.accepted = true ↔
      grammar.Derives grammar.start (tokens.map Sentence.lowercase) := by
  rw [(isExact_of_chart? filled).accepted_iff, tokens_of_chart? filled]

/-- The cell of a span holds the symbols that derive the lower-case words of
the span, and the chart accepts what the start symbol derives. -/
theorem mem_cell_iff_derives {grammar : Grammar} {limit : Option Int}
    {tokens : List String} {chart : Chart}
    (filled : grammar.chart? limit tokens = .ok chart) :
    (∀ first last, first ≤ last → last < tokens.length → ∀ symbol,
      symbol ∈ chart.cell first last ↔
        grammar.Derives symbol
          ((tokens.map Sentence.lowercase).extract first (last + 1))) ∧
      (chart.accepted = true ↔
        grammar.Derives grammar.start (tokens.map Sentence.lowercase)) := by
  constructor
  · intro first last ordered inside symbol
    exact mem_cell_iff_of_chart? filled ordered inside symbol
  · exact accepted_iff_of_chart? filled

/-- A grammar whose nonterminals rewrite to each other. -/
def cyclic : Grammar where
  start := "S"
  rules := [⟨"S", ["A"]⟩, ⟨"S", ["S", "A"]⟩, ⟨"A", ["S"]⟩, ⟨"A", ["go"]⟩]
  grouped_rules := by decide
  start_mem := by decide
  isNearNormal_of_mem := by decide

theorem cyclic_lowercase :
    ["Go", "GO"].map Sentence.lowercase = ["go", "go"] := by
  decide

theorem exists_chart?_cyclic :
    ∃ chart, cyclic.chart? (some 2) ["Go", "GO"] = .ok chart := by
  apply exists_chart?_iff.mpr
  rw [cyclic_lowercase]
  exact ⟨by decide, by simp [WithinLimit], by decide⟩

theorem derives_cyclic_one : cyclic.Derives "A" ["go"] :=
  .word (by decide) (by decide)

theorem derives_cyclic : cyclic.Derives "S" ["go", "go"] := by
  have started : cyclic.Derives "S" ["go"] :=
    .unit (by decide) (by decide) derives_cyclic_one
  have joined : cyclic.Derives "S" (["go"] ++ ["go"]) :=
    .pair (by decide) started derives_cyclic_one
  exact joined

theorem mem_cell_iff_derives_cyclic :
    ∃ chart, cyclic.chart? (some 2) ["Go", "GO"] = .ok chart ∧
      (∀ symbol,
        symbol ∈ chart.cell 0 1 ↔ cyclic.Derives symbol ["go", "go"]) ∧
      chart.accepted = true := by
  obtain ⟨chart, filled⟩ := exists_chart?_cyclic
  have exact := mem_cell_iff_derives filled
  rw [cyclic_lowercase] at exact
  exact ⟨chart, filled, exact.1 0 1 (by decide) (by decide),
    exact.2.mpr derives_cyclic⟩

end Grammar

end SentenceChart
