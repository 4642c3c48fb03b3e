import SentenceChart.Proofs.Chart.Admission
import SentenceChart.Grammar.Derivation

/-!
# Comparing grammars

A grammar is the start symbol and the grouped rules of the list that it was made
from (`ofRules?_eq_ok_iff`).  More rules derive more as long as no terminal
becomes a nonterminal (`IsPartOf.derives`).  Two grammars have the same
productions if they have the same start symbol and every symbol has the same
bodies in the same order, repeated ones left out; such grammars are parts of each
other and derive the same.
-/

namespace SentenceChart.Grammar

/-- The grammar of a list of rules has the given start symbol and the rules of
the list, grouped by head. -/
theorem ofRules?_eq_ok_iff {rules : List Rule} {start : Symbol}
    {grammar : Grammar} :
    ofRules? rules start = .ok grammar ↔
      grammar.start = start ∧ grammar.rules = Rule.grouped rules := by
  rw [ofRules?]
  constructor
  · intro built
    split at built
    · split at built
      · cases built
      · cases built
        exact ⟨rfl, rfl⟩
    · cases built
  · obtain ⟨grammarStart, grammarRules, _, start_mem, nearNormal⟩ := grammar
    rintro ⟨rfl, rfl⟩
    rw [dif_pos start_mem]
    split
    · rename_i rule faulty
      have member := List.mem_of_find?_eq_some faulty
      have notNormal := List.find?_some faulty
      rw [nearNormal rule member] at notNormal
      cases notNormal
    · rfl

/-- The other grammar has all the rules, and no word of the grammar is a
nonterminal of it. -/
structure IsPartOf (grammar other : Grammar) : Prop where
  mem_rules : ∀ rule ∈ grammar.rules, rule ∈ other.rules
  not_mem_terminals :
    ∀ symbol ∈ other.nonterminals, symbol ∉ grammar.terminals

namespace IsPartOf

variable {grammar other : Grammar} (isPart : grammar.IsPartOf other)

include isPart

theorem isTerminal_of_mem {word : Symbol} (known : word ∈ grammar.terminals) :
    other.isTerminal word = true := by
  rw [← Bool.not_eq_false, isTerminal_eq_false_iff]
  intro nonterminal
  exact isPart.not_mem_terminals word nonterminal known

theorem mem_terminals {word : Symbol} (known : word ∈ grammar.terminals) :
    word ∈ other.terminals := by
  obtain ⟨_, head, member⟩ := mem_terminals_iff.mp known
  apply mem_terminals_iff.mpr
  exact ⟨isPart.isTerminal_of_mem known, head, isPart.mem_rules _ member⟩

theorem mem_nonterminals {symbol : Symbol}
    (nonterminal : symbol ∈ grammar.nonterminals) :
    symbol ∈ other.nonterminals := by
  obtain ⟨rule, member, headEq⟩ := mem_nonterminals_iff.mp nonterminal
  apply mem_nonterminals_iff.mpr
  exact ⟨rule, isPart.mem_rules rule member, headEq⟩

theorem derives {symbol : Symbol} {sentence : List Symbol}
    (derived : grammar.Derives symbol sentence) :
    other.Derives symbol sentence := by
  induction derived with
  | word member terminal =>
      have known := mem_terminals_iff.mpr ⟨terminal, _, member⟩
      exact .word (isPart.mem_rules _ member) (isPart.isTerminal_of_mem known)
  | unit member notTerminal _ ih =>
      have nonterminal :=
        isPart.mem_nonterminals (isTerminal_eq_false_iff.mp notTerminal)
      exact .unit (isPart.mem_rules _ member)
        (isTerminal_eq_false_iff.mpr nonterminal) ih
  | pair member _ _ ihFront ihBack =>
      exact .pair (isPart.mem_rules _ member) ihFront ihBack

end IsPartOf

/-- The grammars have the same start symbol, and each symbol has the same bodies
in the same order, repeated ones left out. -/
structure SameProductions (grammar other : Grammar) : Prop where
  start_eq : grammar.start = other.start
  bodies_eq : ∀ symbol,
    (grammar.bodiesOf symbol).eraseDups = (other.bodiesOf symbol).eraseDups

namespace SameProductions

variable {grammar other : Grammar}

theorem symm (same : grammar.SameProductions other) :
    other.SameProductions grammar where
  start_eq := same.start_eq.symm
  bodies_eq symbol := (same.bodies_eq symbol).symm

variable (same : grammar.SameProductions other)

include same

theorem mem_bodiesOf_iff {symbol : Symbol} {body : List Symbol} :
    body ∈ grammar.bodiesOf symbol ↔ body ∈ other.bodiesOf symbol := by
  rw [← List.mem_eraseDups, same.bodies_eq, List.mem_eraseDups]

theorem mem_rules_iff {rule : Rule} :
    rule ∈ grammar.rules ↔ rule ∈ other.rules := by
  have bodies : rule.body ∈ grammar.bodiesOf rule.head ↔
      rule.body ∈ other.bodiesOf rule.head :=
    same.mem_bodiesOf_iff
  rwa [Grammar.mem_bodiesOf_iff, Grammar.mem_bodiesOf_iff] at bodies

theorem mem_nonterminals_iff {symbol : Symbol} :
    symbol ∈ grammar.nonterminals ↔ symbol ∈ other.nonterminals := by
  simp only [Grammar.mem_nonterminals_iff, same.mem_rules_iff]

theorem isTerminal_eq (symbol : Symbol) :
    grammar.isTerminal symbol = other.isTerminal symbol := by
  simp only [isTerminal, List.contains_eq_mem, same.mem_nonterminals_iff]

theorem isPartOf : grammar.IsPartOf other := by
  constructor
  · intro rule
    exact same.mem_rules_iff.mp
  · intro symbol nonterminal
    exact not_mem_terminals_of_mem (same.mem_nonterminals_iff.mpr nonterminal)

theorem mem_terminals_iff {word : Symbol} :
    word ∈ grammar.terminals ↔ word ∈ other.terminals :=
  ⟨same.isPartOf.mem_terminals, same.symm.isPartOf.mem_terminals⟩

theorem derives_iff {symbol : Symbol} {sentence : List Symbol} :
    grammar.Derives symbol sentence ↔ other.Derives symbol sentence :=
  ⟨same.isPartOf.derives, same.symm.isPartOf.derives⟩

theorem unknownWord?_eq (tokens : List String) :
    grammar.unknownWord? tokens = other.unknownWord? tokens := by
  have sameTest (word : String) : (grammar.lexicalCell word).isEmpty =
      (other.lexicalCell word).isEmpty := by
    rw [Bool.eq_iff_iff, isEmpty_lexicalCell_iff, isEmpty_lexicalCell_iff,
      same.mem_terminals_iff]
  simp only [unknownWord?, sameTest]

end SameProductions

end SentenceChart.Grammar
