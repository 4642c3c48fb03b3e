import SentenceChart.Datum
import SentenceChart.Grammar.Rule

/-!
# Grammars near Chomsky normal form

The nonterminals of a grammar are the heads of its rules, and every other symbol
is a terminal.  A body has one symbol of either kind or two nonterminals.
`ofRules?` accepts exactly the lists of rules in which this holds and the
start symbol is a nonterminal; a grammar keeps its rules grouped by head.
-/

namespace SentenceChart

/-- A body of one symbol, or of two of the given nonterminals. -/
def Rule.isNearNormal (nonterminals : List Symbol) (rule : Rule) : Bool :=
  match rule.body with
  | [_] => true
  | [left, right] => nonterminals.contains left && nonterminals.contains right
  | _ => false

/-- A body of one of the given nonterminals. -/
def Rule.isUnit (nonterminals : List Symbol) (rule : Rule) : Bool :=
  match rule.body with
  | [symbol] => nonterminals.contains symbol
  | _ => false

/-- A context-free grammar near Chomsky normal form. -/
structure Grammar where
  /-- The nonterminal that derives the sentences of the language. -/
  start : Symbol
  /-- The rules, those of one head next to each other. -/
  rules : List Rule
  /-- The rules are grouped by head. -/
  grouped_rules : Rule.grouped rules = rules
  /-- The start symbol is a nonterminal. -/
  start_mem : start ∈ Rule.heads rules
  /-- Every body has one symbol or two nonterminals. -/
  isNearNormal_of_mem :
    ∀ rule ∈ rules, rule.isNearNormal (Rule.heads rules) = true

/-- Why a list of rules is no grammar. -/
inductive GrammarError where
  /-- The start symbol is the head of no rule. -/
  | missingStart (start : Datum)
  /-- A body of two symbols has a terminal. -/
  | terminalInPair (rule : Rule)
  /-- A body has no symbol or more than two. -/
  | wrongLength (rule : Rule)

def GrammarError.message : GrammarError → String
  | .missingStart start =>
      "start symbol " ++ String.ofList start.quoted ++ " has no rules"
  | .terminalInPair rule =>
      "binary rule must derive two variables: " ++ rule.toText
  | .wrongLength rule =>
      "right-hand side must have 1 or 2 symbols: " ++ rule.toText

theorem GrammarError.message_missingStart (start : Symbol) :
    (missingStart (.text start)).message =
      "start symbol " ++ Text.quote start ++ " has no rules" :=
  rfl

theorem GrammarError.message_terminalInPair (rule : Rule) :
    (terminalInPair rule).message =
      "binary rule must derive two variables: " ++ rule.toText :=
  rfl

theorem GrammarError.message_wrongLength (rule : Rule) :
    (wrongLength rule).message =
      "right-hand side must have 1 or 2 symbols: " ++ rule.toText :=
  rfl

/-- The error of a rule that is not near normal. -/
def Rule.error (rule : Rule) : GrammarError :=
  if rule.body.length = 2 then .terminalInPair rule else .wrongLength rule

namespace Grammar

/-- The grammar of a list of rules.  A missing start symbol is reported before
any rule, and of the rules the first one in grouped order. -/
def ofRules? (rules : List Rule) (start : Symbol) :
    Except GrammarError Grammar :=
  if start_mem : start ∈ Rule.heads (Rule.grouped rules) then
    match faulty : (Rule.grouped rules).find?
        (!·.isNearNormal (Rule.heads (Rule.grouped rules))) with
    | some rule => .error rule.error
    | none =>
        .ok
          { start
            rules := Rule.grouped rules
            grouped_rules := Rule.grouped_grouped rules
            start_mem
            isNearNormal_of_mem := by simpa using faulty }
  else
    .error (.missingStart (.text start))

/-- The nonterminals in the order of their first rule. -/
def nonterminals (grammar : Grammar) : List Symbol :=
  Rule.heads grammar.rules

/-- Whether a symbol is no nonterminal. -/
def isTerminal (grammar : Grammar) (symbol : Symbol) : Bool :=
  !grammar.nonterminals.contains symbol

/-- The terminals that a rule rewrites its head to. -/
def terminals (grammar : Grammar) : List Symbol :=
  (grammar.rules.filterMap fun rule =>
    match rule.body with
    | [symbol] => if grammar.isTerminal symbol then some symbol else none
    | _ => none).eraseDups

/-- The bodies of the rules of one head, repeated ones included. -/
def bodiesOf (grammar : Grammar) (head : Symbol) : List (List Symbol) :=
  (grammar.rules.filter (·.head == head)).map Rule.body

/-- The heads of the rules with one body. -/
def headsOf (grammar : Grammar) (body : List Symbol) : List Symbol :=
  Rule.heads (grammar.rules.filter (·.body == body))

/-- The rules that rewrite a nonterminal to one nonterminal. -/
def unitRules (grammar : Grammar) : List Rule :=
  let nonterminals := grammar.nonterminals
  grammar.rules.filter (·.isUnit nonterminals)

theorem mem_nonterminals_iff {grammar : Grammar} {symbol : Symbol} :
    symbol ∈ grammar.nonterminals ↔
      ∃ rule ∈ grammar.rules, rule.head = symbol :=
  Rule.mem_heads_iff

theorem mem_bodiesOf_iff {grammar : Grammar} {head : Symbol}
    {body : List Symbol} :
    body ∈ grammar.bodiesOf head ↔ (⟨head, body⟩ : Rule) ∈ grammar.rules := by
  simp only [bodiesOf, List.mem_map, List.mem_filter, beq_iff_eq]
  constructor
  · rintro ⟨⟨_, _⟩, ⟨member, rfl⟩, rfl⟩
    exact member
  · intro member
    exact ⟨_, ⟨member, rfl⟩, rfl⟩

theorem mem_headsOf_iff {grammar : Grammar} {head : Symbol}
    {body : List Symbol} :
    head ∈ grammar.headsOf body ↔ (⟨head, body⟩ : Rule) ∈ grammar.rules := by
  simp only [headsOf, Rule.mem_heads_iff, List.mem_filter, beq_iff_eq]
  constructor
  · rintro ⟨⟨_, _⟩, ⟨member, rfl⟩, rfl⟩
    exact member
  · intro member
    exact ⟨_, ⟨member, rfl⟩, rfl⟩

theorem isTerminal_eq_false_iff {grammar : Grammar} {symbol : Symbol} :
    grammar.isTerminal symbol = false ↔ symbol ∈ grammar.nonterminals := by
  simp [isTerminal]

theorem mem_unitRules_iff {grammar : Grammar} {rule : Rule} :
    rule ∈ grammar.unitRules ↔
      rule ∈ grammar.rules ∧
        ∃ symbol ∈ grammar.nonterminals, rule.body = [symbol] := by
  simp only [unitRules, List.mem_filter, and_congr_right_iff]
  intro _
  rw [Rule.isUnit]
  split
  · rename_i symbol bodyEq
    simp [bodyEq]
  · rename_i notSingle
    simp only [Bool.false_eq_true, false_iff]
    rintro ⟨symbol, _, bodyEq⟩
    exact notSingle symbol bodyEq

end Grammar

end SentenceChart
