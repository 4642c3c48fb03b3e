import SentenceChart.Grammar.Basic
import SentenceChart.Loose.Symbol

/-!
# Grammars of any values

The bodies of rules and the start symbol can be given as values of any type.
A rule whose body is one value other than a text derives no sentence, because
every word is a text.  In the grammar of texts a rule that rewrites its head
to itself stands in for it, since such a rule derives nothing either.  A second
grammar holds the rules with the keys of all values as their symbols.
-/

namespace SentenceChart

/-- Why values are no grammar. -/
inductive LooseError where
  /-- A value has the wrong type. -/
  | fault (fault : Datum.Fault)
  /-- The rules are no grammar. -/
  | grammar (error : GrammarError)

/-- A rule whose body holds any values. -/
structure LooseRule where
  /-- The nonterminal that is rewritten. -/
  head : Symbol
  /-- What it is rewritten to. -/
  body : List Datum

namespace LooseRule

/-- The rule with the given head and body: the head is the shown form of its
value, and the body must be a sequence. -/
def ofData? (head body : Datum) : Except Datum.Fault LooseRule := do
  let head ← head.shown?
  match body.items? with
  | some items => return ⟨head, items⟩
  | none => throw .notSequence

/-- A rule of texts. -/
def ofRule (rule : Rule) : LooseRule :=
  ⟨rule.head, rule.body.map .text⟩

/-- The rule of texts that it is, if it is one. -/
def rule? (rule : LooseRule) : Option Rule :=
  (rule.body.mapM Datum.text?).map fun body => ⟨rule.head, body⟩

/-- The rule in the grammar of texts. -/
def standIn (rule : LooseRule) : Rule :=
  rule.rule?.getD ⟨rule.head, [rule.head]⟩

/-- The rule in the grammar of keys. -/
def keyed (rule : LooseRule) : Rule :=
  ⟨Datum.key (.text rule.head), rule.body.map Datum.key⟩

/-- Whether the body is made of texts or is one symbol.  No grammar has another
body, and no report can show one. -/
def isSound (rule : LooseRule) : Bool :=
  rule.rule?.isSome ||
    match rule.body with
    | [value] => value.isSymbol
    | _ => false

/-- The heads of the rules in the order of their first rule. -/
def heads (rules : List LooseRule) : List Symbol :=
  (rules.map head).eraseDups

/-- The rules with those of one head next to each other. -/
def grouped (rules : List LooseRule) : List LooseRule :=
  (heads rules).flatMap fun head => rules.filter (·.head == head)

theorem rule?_ofRule (rule : Rule) : (ofRule rule).rule? = some rule := by
  rw [rule?, ofRule, Datum.mapM_text?]
  rfl

/-- A rule of texts stands for itself. -/
theorem standIn_ofRule (rule : Rule) : (ofRule rule).standIn = rule := by
  simp [standIn, rule?_ofRule]

end LooseRule

/-- The rule of texts with the given head and body. -/
def Rule.ofData? (head body : Datum) : Except Datum.Fault Rule :=
  match LooseRule.ofData? head body with
  | .error fault => .error fault
  | .ok rule =>
      match rule.rule? with
      | some rule => .ok rule
      | none => .error .notText

/-- A grammar whose rules hold any values. -/
structure LooseGrammar where
  /-- The rules, those of one head next to each other. -/
  rules : List LooseRule
  /-- The grammar of texts. -/
  grammar : Grammar
  /-- The grammar of keys. -/
  keyed : Grammar

namespace LooseGrammar

/-- The first rule in grouped order that keeps the rules from being a grammar,
as an error. -/
def ruleError? (rules : List LooseRule) : Option LooseError :=
  let grouped := LooseRule.grouped rules
  let heads := LooseRule.heads rules
  (grouped.find? fun rule =>
    !rule.isSound || !rule.standIn.isNearNormal heads).map fun rule =>
      if rule.isSound then .grammar rule.standIn.error else .fault .notText

/-- The grammar of a list of rules.  The start symbol is looked for before any
rule is looked at; a value that is no text is no nonterminal. -/
def ofRules? (rules : List LooseRule) (start : Datum) :
    Except LooseError LooseGrammar :=
  match start with
  | .text symbol =>
      if !(LooseRule.heads rules).contains symbol then
        .error (.grammar (.missingStart start))
      else
        match ruleError? rules with
        | some error => .error error
        | none =>
            let grouped := LooseRule.grouped rules
            let standIns := grouped.map LooseRule.standIn
            let keyed := grouped.map LooseRule.keyed
            match Grammar.ofRules? standIns symbol,
                Grammar.ofRules? keyed start.key with
            | .ok grammar, .ok keyed => .ok ⟨grouped, grammar, keyed⟩
            | .error error, _ => .error (.grammar error)
            | _, .error error => .error (.grammar error)
  | _ =>
      if !start.isSymbol then
        .error (.fault .notSymbol)
      else if !start.isWritable then
        .error (.fault .tooManyDigits)
      else
        .error (.grammar (.missingStart start))

/-- The grammar of texts, if all its rules are rules of texts. -/
def typed? (grammar : LooseGrammar) : Except Datum.Fault Grammar :=
  if grammar.rules.all (·.rule?.isSome) then
    .ok grammar.grammar
  else
    .error .notText

/-- Whether a value is no nonterminal. -/
def isTerminal (grammar : LooseGrammar) (symbol : Datum) :
    Except Datum.Fault Bool :=
  if symbol.isSymbol then
    .ok (grammar.keyed.isTerminal symbol.key)
  else
    .error .notSymbol

/-- The bodies of the rules of one head. -/
def bodiesOf (grammar : LooseGrammar) (head : Datum) :
    Except Datum.Fault (List (List Datum)) :=
  if head.isSymbol then
    .ok ((grammar.rules.filter fun rule =>
      Datum.key (.text rule.head) == head.key).map LooseRule.body)
  else
    .error .notSymbol

/-- The heads of the rules with one body, which must be a sequence. -/
def headsOf (grammar : LooseGrammar) (body : Datum) :
    Except Datum.Fault (List Symbol) :=
  match body.items? with
  | none => .error .notSequence
  | some items =>
      if items.all Datum.isSymbol then
        .ok (LooseRule.heads (grammar.rules.filter fun rule =>
          rule.body.map Datum.key == items.map Datum.key))
      else
        .error .notSymbol

end LooseGrammar

end SentenceChart
