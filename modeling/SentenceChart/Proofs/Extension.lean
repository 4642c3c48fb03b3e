import SentenceChart.Proofs.Decision
import SentenceChart.Proofs.Grammar

/-!
# Adding rules to a grammar

A grammar is a part of another one that has all its rules and in which none of
its words becomes a nonterminal.  Then its words are still known, so that no
chart is lost, and its derivations are derivations of the larger grammar, so
that no cell loses a symbol.  A sentence that is valid stays valid, although
its tree may be another one.
-/

namespace SentenceChart

namespace Grammar.IsPartOf

variable {grammar other : Grammar} (isPart : grammar.IsPartOf other)

include isPart

theorem exists_chart {limit : Option Int} {tokens : List String}
    {chart : Chart} (filled : grammar.chart? limit tokens = .ok chart) :
    ∃ larger, other.chart? limit tokens = .ok larger := by
  obtain ⟨nonempty, within, known⟩ := exists_chart?_iff.mp ⟨chart, filled⟩
  apply exists_chart?_iff.mpr
  refine ⟨nonempty, within, ?_⟩
  intro word member
  exact isPart.mem_terminals (known word member)

theorem cell_subset {limit : Option Int} {tokens : List String}
    {chart larger : Chart} (filled : grammar.chart? limit tokens = .ok chart)
    (largerFilled : other.chart? limit tokens = .ok larger)
    (first last : Nat) : chart.cell first last ⊆ larger.cell first last := by
  have exact := isExact_of_chart? filled
  have largerExact := isExact_of_chart? largerFilled
  have sameTokens : chart.tokens = larger.tokens := by
    rw [tokens_of_chart? filled, tokens_of_chart? largerFilled]
  have sameLength : chart.length = larger.length := by
    rw [Chart.length, sameTokens, Chart.length]
  intro symbol member
  -- Inside the sentence both cells hold what is derived, and outside there is
  -- nothing to lose.
  by_cases span : chart.isSpan first last = true
  · obtain ⟨ordered, inside⟩ := Chart.isSpan_iff.mp span
    have derived := (exact.mem_cell_iff ordered inside symbol).mp member
    rw [sameLength] at inside
    apply (largerExact.mem_cell_iff ordered inside symbol).mpr
    rw [Chart.words, ← sameTokens]
    exact isPart.derives derived
  · rw [Chart.cell_eq_nil_of_not_isSpan (Bool.eq_false_iff.mpr span)] at member
    cases member

end Grammar.IsPartOf

namespace Checker

theorem exists_valid_iff {checker : Checker} {tokens : List String} :
    (∃ tree, checker.checkTokens tokens = .valid tree) ↔
      (∃ chart, checker.chart? tokens = .ok chart) ∧
        checker.grammar.Derives checker.grammar.start
          (tokens.map Sentence.lowercase) := by
  constructor
  · rintro ⟨tree, valid⟩
    obtain ⟨chart, filled, accepted, _⟩ :=
      exists_chart_of_checkTokens_eq_valid valid
    have derived := (Grammar.accepted_iff_of_chart? filled).mp accepted
    exact ⟨⟨chart, filled⟩, derived⟩
  · rintro ⟨⟨chart, filled⟩, derived⟩
    have accepted := (Grammar.accepted_iff_of_chart? filled).mpr derived
    rw [checkTokens_of_ok filled, if_pos accepted]
    exact ⟨_, rfl⟩

section IsPartOf

variable {grammar other : Grammar} (isPart : grammar.IsPartOf other)
  (sameStart : grammar.start = other.start) (limit : Option Int)

include isPart sameStart

theorem valid_checkTokens_of_isPartOf {tokens : List String} {tree : Tree}
    (valid : (Checker.mk grammar limit).checkTokens tokens = .valid tree) :
    ∃ larger, (Checker.mk other limit).checkTokens tokens = .valid larger := by
  obtain ⟨⟨chart, filled⟩, derived⟩ := exists_valid_iff.mp ⟨tree, valid⟩
  apply exists_valid_iff.mpr
  refine ⟨isPart.exists_chart filled, ?_⟩
  rw [← sameStart]
  exact isPart.derives derived

theorem valid_check_of_isPartOf {raw : Option String} {tree : Tree}
    (valid : (Checker.mk grammar limit).check raw = .valid tree) :
    ∃ larger, (Checker.mk other limit).check raw = .valid larger := by
  rw [check, examine] at valid ⊢
  cases words : Sentence.words? raw with
  | error rejection =>
      rw [words] at valid
      exact (Verdict.ofRejection_ne_valid rejection tree valid).elim
  | ok tokens =>
      rw [words] at valid
      exact valid_checkTokens_of_isPartOf isPart sameStart limit valid

end IsPartOf

end Checker

/-- A larger grammar has a chart for the same words, and every cell of it holds
the symbols of the smaller grammar.  With the same start symbol every valid
sentence stays valid. -/
theorem Grammar.IsPartOf.no_parse_lost {grammar other : Grammar}
    (isPart : grammar.IsPartOf other) (limit : Option Int) :
    (∀ tokens chart, grammar.chart? limit tokens = .ok chart →
      ∃ larger, other.chart? limit tokens = .ok larger ∧
        ∀ first last, chart.cell first last ⊆ larger.cell first last) ∧
      (grammar.start = other.start →
        (∀ tokens tree,
          (Checker.mk grammar limit).checkTokens tokens = .valid tree →
            ∃ larger,
              (Checker.mk other limit).checkTokens tokens = .valid larger) ∧
          ∀ raw tree, (Checker.mk grammar limit).check raw = .valid tree →
            ∃ larger, (Checker.mk other limit).check raw = .valid larger) := by
  constructor
  · intro tokens chart filled
    obtain ⟨larger, largerFilled⟩ := isPart.exists_chart filled
    exact ⟨larger, largerFilled, isPart.cell_subset filled largerFilled⟩
  · intro sameStart
    constructor
    · intro tokens tree valid
      exact Checker.valid_checkTokens_of_isPartOf isPart sameStart limit valid
    · intro raw tree valid
      exact Checker.valid_check_of_isPartOf isPart sameStart limit valid

/-- The cyclic grammar with another nonterminal and another word. -/
def Grammar.widened : Grammar where
  start := "S"
  rules :=
    [⟨"B", ["A", "S"]⟩, ⟨"S", ["B"]⟩, ⟨"S", ["A"]⟩, ⟨"S", ["S", "A"]⟩,
      ⟨"A", ["S"]⟩, ⟨"A", ["stop"]⟩, ⟨"A", ["go"]⟩]
  grouped_rules := by decide
  start_mem := by decide
  isNearNormal_of_mem := by decide

theorem Grammar.IsPartOf.no_parse_lost_widened :
    Grammar.cyclic.IsPartOf Grammar.widened ∧
      (∃ chart larger, Grammar.cyclic.chart? (some 2) ["Go", "GO"] = .ok chart ∧
        Grammar.widened.chart? (some 2) ["Go", "GO"] = .ok larger ∧
        "S" ∈ larger.cell 0 1) ∧
      ∃ tree,
        (Checker.mk Grammar.widened (some 2)).checkTokens ["Go", "GO"] =
          .valid tree := by
  have isPart : Grammar.cyclic.IsPartOf Grammar.widened :=
    ⟨by decide, by decide⟩
  obtain ⟨charts, verdicts⟩ := isPart.no_parse_lost (some 2)
  obtain ⟨chart, filled⟩ := Grammar.exists_chart?_cyclic
  have exact := Grammar.isExact_of_chart? filled
  have tokens := Grammar.tokens_of_chart? filled
  rw [Grammar.cyclic_lowercase] at tokens
  refine ⟨isPart, ?_, ?_⟩
  · obtain ⟨larger, largerFilled, subset⟩ := charts _ chart filled
    have length : chart.length = 2 := by
      rw [Chart.length, tokens]
      rfl
    have held : "S" ∈ chart.whole := by
      rw [exact.mem_whole_iff, tokens]
      exact Grammar.derives_cyclic
    rw [Chart.whole, length] at held
    exact ⟨chart, larger, filled, largerFilled, subset 0 1 held⟩
  · obtain ⟨tree, valid⟩ : ∃ tree,
        (Checker.mk Grammar.cyclic (some 2)).checkTokens ["Go", "GO"] =
          .valid tree := by
      apply Checker.exists_valid_iff.mpr
      refine ⟨⟨chart, filled⟩, ?_⟩
      rw [Grammar.cyclic_lowercase]
      exact Grammar.derives_cyclic
    exact (verdicts rfl).1 _ tree valid

end SentenceChart
