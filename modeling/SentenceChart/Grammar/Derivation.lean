import SentenceChart.Grammar.Basic

/-!
# Derivations

`Derives` is the relation that the charts compute: a nonterminal derives a list
of words if its rules rewrite it to them.  A word is derived by a rule with
that one terminal; a rule with one nonterminal hands over the whole list, and a
rule with two nonterminals cuts it in two.  `UnitReaches` follows rules with one
nonterminal only.
-/

namespace SentenceChart.Grammar

/-- The nonterminal rewrites to the list of words. -/
inductive Derives (grammar : Grammar) : Symbol → List Symbol → Prop where
  | word {head word : Symbol} :
      (⟨head, [word]⟩ : Rule) ∈ grammar.rules →
      grammar.isTerminal word = true →
      Derives grammar head [word]
  | unit {head target : Symbol} {sentence : List Symbol} :
      (⟨head, [target]⟩ : Rule) ∈ grammar.rules →
      grammar.isTerminal target = false →
      Derives grammar target sentence →
      Derives grammar head sentence
  | pair {head left right : Symbol} {front back : List Symbol} :
      (⟨head, [left, right]⟩ : Rule) ∈ grammar.rules →
      Derives grammar left front →
      Derives grammar right back →
      Derives grammar head (front ++ back)

/-- The first nonterminal rewrites to the second by rules with one
nonterminal. -/
inductive UnitReaches (grammar : Grammar) : Symbol → Symbol → Prop where
  | refl (symbol : Symbol) : UnitReaches grammar symbol symbol
  | step {head target symbol : Symbol} :
      (⟨head, [target]⟩ : Rule) ∈ grammar.rules →
      grammar.isTerminal target = false →
      UnitReaches grammar target symbol →
      UnitReaches grammar head symbol

/-- Only nonterminals derive anything. -/
theorem Derives.head_mem {grammar : Grammar} {head : Symbol}
    {sentence : List Symbol} (derived : grammar.Derives head sentence) :
    head ∈ grammar.nonterminals := by
  cases derived with
  | word member _ => exact mem_nonterminals_iff.mpr ⟨_, member, rfl⟩
  | unit member _ _ => exact mem_nonterminals_iff.mpr ⟨_, member, rfl⟩
  | pair member _ _ => exact mem_nonterminals_iff.mpr ⟨_, member, rfl⟩

/-- No nonterminal derives the empty list. -/
theorem Derives.sentence_ne_nil {grammar : Grammar} {head : Symbol}
    {sentence : List Symbol} (derived : grammar.Derives head sentence) :
    sentence ≠ [] := by
  induction derived with
  | word => exact List.cons_ne_nil _ _
  | unit _ _ _ ih => exact ih
  | pair _ _ _ ihFront _ =>
      intro empty
      exact ihFront (List.append_eq_nil_iff.mp empty).1

/-- Rules with one nonterminal hand a derivation on. -/
theorem UnitReaches.derives {grammar : Grammar} {head symbol : Symbol}
    {sentence : List Symbol} (reached : grammar.UnitReaches head symbol)
    (derived : grammar.Derives symbol sentence) :
    grammar.Derives head sentence := by
  induction reached with
  | refl => exact derived
  | step member notTerminal _ ih => exact .unit member notTerminal (ih derived)

end SentenceChart.Grammar
