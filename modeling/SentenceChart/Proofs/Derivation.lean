import SentenceChart.Chart.Closure
import SentenceChart.Grammar.Derivation

/-!
# How a derivation begins

A derivation begins with unit rules, perhaps with none, until a rule without a
unit body meets the sentence (`derives_iff`).  The closure of a cell follows the
same unit rules backwards (`mem_close_iff`), so that a closed cell holds what is
derived as soon as the cell holds what is derived without unit rules.
-/

namespace SentenceChart.Grammar

/-- A rule rewrites the symbol to the only word of the sentence. -/
def HasWord (grammar : Grammar) (symbol : Symbol)
    (sentence : List Symbol) : Prop :=
  ∃ word, sentence = [word] ∧ (⟨symbol, [word]⟩ : Rule) ∈ grammar.rules

/-- The body has two symbols that derive the parts of the sentence before and
after a number of words. -/
def SplitsAs (grammar : Grammar) (sentence : List Symbol) (size : Nat)
    (body : List Symbol) : Prop :=
  ∃ left right, body = [left, right] ∧
    grammar.Derives left (sentence.take size) ∧
    grammar.Derives right (sentence.drop size)

/-- A body of the symbol derives the parts of the sentence at some cut. -/
def HasCut (grammar : Grammar) (symbol : Symbol)
    (sentence : List Symbol) : Prop :=
  ∃ size, ∃ body ∈ grammar.bodiesOf symbol,
    grammar.SplitsAs sentence size body

/-- A rule other than a unit rule meets the sentence. -/
def Meets (grammar : Grammar) (sentence : List Symbol)
    (symbol : Symbol) : Prop :=
  grammar.HasWord symbol sentence ∨ grammar.HasCut symbol sentence

/-- A unit rule leads from a symbol to one that derives the sentence. -/
def UnitStep (grammar : Grammar) (sentence : List Symbol)
    (symbol target : Symbol) : Prop :=
  (⟨symbol, [target]⟩ : Rule) ∈ grammar.rules ∧
    grammar.isTerminal target = false ∧ grammar.Derives target sentence

/-- The symbol derives the sentence by a rule that is not a unit rule. -/
def DerivesDirectly (grammar : Grammar) (symbol : Symbol)
    (sentence : List Symbol) : Prop :=
  (∃ word, sentence = [word] ∧ grammar.isTerminal word = true ∧
    (⟨symbol, [word]⟩ : Rule) ∈ grammar.rules) ∨
    grammar.HasCut symbol sentence

theorem DerivesDirectly.derives {grammar : Grammar} {symbol : Symbol}
    {sentence : List Symbol}
    (direct : grammar.DerivesDirectly symbol sentence) :
    grammar.Derives symbol sentence := by
  rcases direct with ⟨word, rfl, terminal, member⟩ |
    ⟨size, _, member, left, right, rfl, leftDerives, rightDerives⟩
  · exact .word member terminal
  · rw [← List.take_append_drop size sentence]
    exact .pair (mem_bodiesOf_iff.mp member) leftDerives rightDerives

/-- A derivation is a chain of unit rules followed by another rule. -/
theorem derives_iff {grammar : Grammar} {symbol : Symbol}
    {sentence : List Symbol} :
    grammar.Derives symbol sentence ↔
      ∃ target, grammar.UnitReaches symbol target ∧
        grammar.DerivesDirectly target sentence := by
  constructor
  · intro derived
    induction derived with
    | @word head word member terminal =>
        exact ⟨head, .refl head, .inl ⟨word, rfl, terminal, member⟩⟩
    | unit member notTerminal _ ih =>
        obtain ⟨target, reached, direct⟩ := ih
        exact ⟨target, .step member notTerminal reached, direct⟩
    | @pair head left right front back member leftDerives rightDerives =>
        refine ⟨head, .refl head, .inr ⟨front.length, [left, right],
          mem_bodiesOf_iff.mpr member, left, right, rfl, ?_, ?_⟩⟩
        · rwa [List.take_left]
        · rwa [List.drop_left]
  · rintro ⟨target, reached, direct⟩
    exact reached.derives direct.derives

theorem SplitsAs.size_bounds {grammar : Grammar} {sentence : List Symbol}
    {size : Nat} {body : List Symbol}
    (splits : grammar.SplitsAs sentence size body) :
    0 < size ∧ size < sentence.length := by
  obtain ⟨left, right, _, leftDerives, rightDerives⟩ := splits
  have front := List.length_pos_iff.mpr leftDerives.sentence_ne_nil
  have back := List.length_pos_iff.mpr rightDerives.sentence_ne_nil
  rw [List.length_take] at front
  rw [List.length_drop] at back
  omega

theorem HasCut.one_lt_length {grammar : Grammar} {symbol : Symbol}
    {sentence : List Symbol} (cut : grammar.HasCut symbol sentence) :
    1 < sentence.length := by
  obtain ⟨size, body, _, splits⟩ := cut
  have bounds := splits.size_bounds
  omega

theorem HasCut.not_hasWord {grammar : Grammar} {symbol : Symbol}
    {sentence : List Symbol} (cut : grammar.HasCut symbol sentence) :
    ¬grammar.HasWord symbol sentence := by
  rintro ⟨word, rfl, _⟩
  exact Nat.lt_irrefl 1 cut.one_lt_length

theorem mem_close_of_rule {grammar : Grammar} {cell : Cell}
    {head target : Symbol} (member : (⟨head, [target]⟩ : Rule) ∈ grammar.rules)
    (notTerminal : grammar.isTerminal target = false)
    (held : target ∈ grammar.close cell) : head ∈ grammar.close cell := by
  have unitMember : (⟨head, [target]⟩ : Rule) ∈ grammar.unitRules :=
    mem_unitRules_iff.mpr
      ⟨member, target, isTerminal_eq_false_iff.mp notTerminal, rfl⟩
  apply Cell.head_mem_closeUnder unitMember
  intro symbol inBody
  rwa [List.mem_singleton.mp inBody]

/-- The closure of a cell holds the symbols from which unit rules lead to a
symbol of the cell. -/
theorem mem_close_iff {grammar : Grammar} {cell : Cell} {symbol : Symbol} :
    symbol ∈ grammar.close cell ↔
      ∃ target ∈ cell, grammar.UnitReaches symbol target := by
  constructor
  · apply Cell.mem_of_mem_closeUnder
    · intro target member
      exact ⟨target, member, .refl target⟩
    · intro rule unitMember bodyReaches
      obtain ⟨member, target, nonterminal, bodyEq⟩ :=
        mem_unitRules_iff.mp unitMember
      obtain ⟨found, foundMember, reached⟩ :=
        bodyReaches target (by simp [bodyEq])
      refine ⟨found, foundMember, .step ?_
        (isTerminal_eq_false_iff.mpr nonterminal) reached⟩
      rwa [← bodyEq]
  · rintro ⟨target, member, reached⟩
    induction reached with
    | refl => exact Cell.subset_closeUnder cell _ member
    | step ruleMember notTerminal _ ih =>
        exact mem_close_of_rule ruleMember notTerminal (ih member)

theorem mem_close_iff_derives {grammar : Grammar} {cell : Cell}
    {sentence : List Symbol}
    (direct : ∀ symbol,
      symbol ∈ cell ↔ grammar.DerivesDirectly symbol sentence)
    (symbol : Symbol) :
    symbol ∈ grammar.close cell ↔ grammar.Derives symbol sentence := by
  rw [mem_close_iff, derives_iff]
  constructor
  · rintro ⟨target, member, reached⟩
    exact ⟨target, reached, (direct target).mp member⟩
  · rintro ⟨target, reached, derived⟩
    exact ⟨target, (direct target).mpr derived, reached⟩

end SentenceChart.Grammar
