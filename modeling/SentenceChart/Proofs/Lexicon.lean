import SentenceChart.Proofs.Chart.Exactness

/-!
# Sentences over the words of a grammar

The words of a grammar stand in its rules as they were written, while a chart is
filled for lower-case words.  So a list of words has an exact chart if its
lower-case forms are words of the grammar, and the chart is about the list as it
stands if these are the same words.  A word that is not lower case is out of
reach, even if the grammar has it.
-/

namespace SentenceChart.Grammar

/-- The tokens have a chart, and the cell of each span holds exactly what
derives the given words there. -/
def HasChartFor (grammar : Grammar) (limit : Option Int)
    (tokens words : List String) : Prop :=
  ∃ chart, grammar.chart? limit tokens = .ok chart ∧
    ∀ first last, first ≤ last → last < tokens.length → ∀ symbol,
      symbol ∈ chart.cell first last ↔
        grammar.Derives symbol (words.extract first (last + 1))

theorem hasChartFor_lowercase {grammar : Grammar} {limit : Option Int}
    {tokens : List String} (nonempty : tokens ≠ [])
    (within : WithinLimit limit tokens.length)
    (known : ∀ word ∈ tokens, Sentence.lowercase word ∈ grammar.terminals) :
    grammar.HasChartFor limit tokens (tokens.map Sentence.lowercase) := by
  have lowerKnown :
      ∀ word ∈ tokens.map Sentence.lowercase, word ∈ grammar.terminals :=
    List.forall_mem_map.mpr known
  obtain ⟨chart, filled⟩ :=
    exists_chart?_iff.mpr ⟨nonempty, within, lowerKnown⟩
  refine ⟨chart, filled, ?_⟩
  intro first last ordered inside symbol
  exact mem_cell_iff_of_chart? filled ordered inside symbol

/-- A list of words whose lower-case forms are words of the grammar has an exact
chart for these forms.  If the words of the list are words of the grammar and
lower case already, it is exact for the list as it stands. -/
theorem hasChartFor_of_known {grammar : Grammar} {limit : Option Int}
    {tokens : List String} (nonempty : tokens ≠ [])
    (within : WithinLimit limit tokens.length) :
    ((∀ word ∈ tokens, Sentence.lowercase word ∈ grammar.terminals) →
        grammar.HasChartFor limit tokens (tokens.map Sentence.lowercase)) ∧
      ((∀ word ∈ tokens,
          word ∈ grammar.terminals ∧ Sentence.lowercase word = word) →
        grammar.HasChartFor limit tokens tokens) := by
  constructor
  · exact hasChartFor_lowercase nonempty within
  · intro known
    have same : tokens.map Sentence.lowercase = tokens := by
      rw [List.map_congr_left fun word member => (known word member).2]
      exact List.map_id' tokens
    have lowerKnown :
        ∀ word ∈ tokens, Sentence.lowercase word ∈ grammar.terminals := by
      intro word member
      rw [(known word member).2]
      exact (known word member).1
    have forLowercase := hasChartFor_lowercase nonempty within lowerKnown
    rwa [same] at forLowercase

/-- The cyclic grammar derives the lower-case forms of the first list, and the
second list as it stands. -/
theorem hasChartFor_of_known_cyclic :
    cyclic.HasChartFor (some 2) ["Go", "GO"] ["go", "go"] ∧
      cyclic.HasChartFor (some 2) ["go", "go"] ["go", "go"] := by
  constructor
  · have known : ∀ word ∈ ["Go", "GO"],
        Sentence.lowercase word ∈ cyclic.terminals := by
      decide
    have within : WithinLimit (some 2) ["Go", "GO"].length := by
      simp [WithinLimit]
    have held := (hasChartFor_of_known (by decide) within).1 known
    rwa [cyclic_lowercase] at held
  · have known : ∀ word ∈ ["go", "go"],
        word ∈ cyclic.terminals ∧ Sentence.lowercase word = word := by
      decide
    exact (hasChartFor_of_known (by decide) (by simp [WithinLimit])).2 known

/-- A grammar with a word that is not lower case. -/
def capital : Grammar where
  start := "S"
  rules := [⟨"S", ["Go"]⟩]
  grouped_rules := by decide
  start_mem := by decide
  isNearNormal_of_mem := by decide

/-- A word of the grammar that is not lower case is unknown, although the start
symbol derives it. -/
theorem not_hasChartFor_capital :
    ["Go"] ≠ [] ∧ WithinLimit (some 64) ["Go"].length ∧
      (∀ word ∈ ["Go"], word ∈ capital.terminals) ∧
      capital.Derives "S" (["Go"].extract 0 1) ∧
      capital.chart? (some 64) ["Go"] = .error (.unknownWord "go" 0) ∧
      ¬capital.HasChartFor (some 64) ["Go"] ["Go"] := by
  have unknown :
      capital.chart? (some 64) ["Go"] = .error (.unknownWord "go" 0) :=
    rfl
  refine ⟨by decide, by simp [WithinLimit], by decide, ?_, unknown, ?_⟩
  · exact .word (by decide) (by decide)
  · rintro ⟨chart, filled, _⟩
    rw [unknown] at filled
    cases filled

end SentenceChart.Grammar
