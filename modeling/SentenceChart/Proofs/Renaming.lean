import Mathlib.Logic.Function.Basic
import SentenceChart.Loose.Chart
import SentenceChart.Proofs.Grammar
import SentenceChart.Proofs.StableGrouping
import SentenceChart.Proofs.Tree.Search

/-!
# Renaming symbols

A renaming that keeps symbols apart can be carried through a whole development:
the renamed rules make a grammar exactly if the rules do, and the tree that is
rebuilt from a renamed chart is the renamed tree.  The rebuilding compares symbols
only with each other, so one lemma for each of its questions is enough.
-/

namespace SentenceChart

variable {name : Symbol → Symbol}

theorem beq_of_injective (injective : Function.Injective name)
    (left right : Symbol) :
    (name left == name right) = (left == right) := by
  rw [Bool.eq_iff_iff, beq_iff_eq, beq_iff_eq, injective.eq_iff]

theorem contains_map_of_injective (injective : Function.Injective name)
    (symbols : List Symbol) (symbol : Symbol) :
    (symbols.map name).contains (name symbol) =
      symbols.contains symbol := by
  rw [Bool.eq_iff_iff, List.contains_iff_mem, List.contains_iff_mem,
    List.mem_map_of_injective injective]

namespace Rule

/-- The rule with other symbols. -/
def rename (name : Symbol → Symbol) (rule : Rule) : Rule :=
  ⟨name rule.head, rule.body.map name⟩

variable {rule : Rule} {rules : List Rule}

theorem filter_map_rename (injective : Function.Injective name)
    (symbol : Symbol) (rules : List Rule) :
    (rules.map (Rule.rename name)).filter (·.head == name symbol) =
      (rules.filter (·.head == symbol)).map (Rule.rename name) := by
  rw [List.filter_map]
  congr 1
  apply List.filter_congr
  intro rule _
  exact beq_of_injective injective rule.head symbol

theorem filter_not_map_rename (injective : Function.Injective name)
    (symbol : Symbol) (rules : List Rule) :
    (rules.map (Rule.rename name)).filter (·.head != name symbol) =
      (rules.filter (·.head != symbol)).map (Rule.rename name) := by
  rw [List.filter_map]
  congr 1
  apply List.filter_congr
  intro rule _
  exact congrArg not (beq_of_injective injective rule.head symbol)

theorem heads_map_rename (injective : Function.Injective name)
    (rules : List Rule) :
    heads (rules.map (Rule.rename name)) = (heads rules).map name := by
  induction rules using headInduction with
  | nil => rfl
  | cons first rest ih =>
      have others := filter_not_map_rename injective first.head rest
      rw [List.map_cons, heads_cons, heads_cons, List.map_cons, ← ih, ← others]
      rfl

theorem grouped_map_rename (injective : Function.Injective name)
    (rules : List Rule) :
    grouped (rules.map (Rule.rename name)) =
      (grouped rules).map (Rule.rename name) := by
  induction rules with
  | nil => rfl
  | cons first rest ih =>
      have same := filter_map_rename injective first.head (grouped rest)
      have others := filter_not_map_rename injective first.head (grouped rest)
      rw [List.map_cons, grouped, grouped, ih, List.map_cons, List.map_append,
        ← same, ← others]
      rfl

theorem isNearNormal_rename (injective : Function.Injective name)
    (nonterminals : List Symbol) (rule : Rule) :
    (rule.rename name).isNearNormal (nonterminals.map name) =
      rule.isNearNormal nonterminals := by
  obtain ⟨head, body⟩ := rule
  rcases body with _ | ⟨left, _ | ⟨right, _ | ⟨third, more⟩⟩⟩
  · rfl
  · rfl
  · simp only [Rule.rename, List.map_cons, List.map_nil, isNearNormal,
      contains_map_of_injective injective]
  · rfl

end Rule

namespace Grammar

/-- The grammar with other symbols. -/
def rename (grammar : Grammar) (name : Symbol → Symbol)
    (injective : Function.Injective name) : Grammar where
  start := name grammar.start
  rules := grammar.rules.map (Rule.rename name)
  grouped_rules := by
    rw [Rule.grouped_map_rename injective, grammar.grouped_rules]
  start_mem := by
    rw [Rule.heads_map_rename injective]
    exact List.mem_map_of_mem grammar.start_mem
  isNearNormal_of_mem := by
    intro renamed member
    obtain ⟨rule, given, rfl⟩ := List.mem_map.mp member
    rw [Rule.heads_map_rename injective, Rule.isNearNormal_rename injective]
    exact grammar.isNearNormal_of_mem rule given

theorem ofRules?_rename {rules : List Rule} {start : Symbol}
    {grammar : Grammar} (injective : Function.Injective name)
    (built : ofRules? rules start = .ok grammar) :
    ofRules? (rules.map (Rule.rename name)) (name start) =
      .ok (grammar.rename name injective) := by
  obtain ⟨rfl, grouped⟩ := ofRules?_eq_ok_iff.mp built
  apply ofRules?_eq_ok_iff.mpr
  refine ⟨rfl, ?_⟩
  rw [Rule.grouped_map_rename injective, ← grouped]
  rfl

variable (injective : Function.Injective name) (grammar : Grammar)

theorem isTerminal_rename (symbol : Symbol) :
    (grammar.rename name injective).isTerminal (name symbol) =
      grammar.isTerminal symbol := by
  have nonterminals : (grammar.rename name injective).nonterminals =
      grammar.nonterminals.map name :=
    Rule.heads_map_rename injective grammar.rules
  rw [isTerminal, isTerminal, nonterminals,
    contains_map_of_injective injective]

theorem bodiesOf_rename (head : Symbol) :
    (grammar.rename name injective).bodiesOf (name head) =
      (grammar.bodiesOf head).map (List.map name) := by
  have chosen := Rule.filter_map_rename injective head grammar.rules
  rw [bodiesOf, bodiesOf, Grammar.rename, chosen, List.map_map, List.map_map]
  rfl

end Grammar

namespace Tree

variable (label : Symbol → Symbol)

@[simp] theorem relabel_leaf (symbol : Symbol) (word : String) :
    (leaf symbol word).relabel label = leaf (label symbol) word := by
  rw [leaf, relabel, relabelAll, leaf]

@[simp] theorem relabel_unit (symbol : Symbol) (child : Tree) :
    (unit symbol child).relabel label =
      unit (label symbol) (child.relabel label) := by
  rw [unit, relabel, relabelAll, relabelAll, unit]

@[simp] theorem relabel_pair (symbol : Symbol) (left right : Tree) :
    (pair symbol left right).relabel label =
      pair (label symbol) (left.relabel label) (right.relabel label) := by
  rw [pair, relabel, relabelAll, relabelAll, relabelAll, pair]

@[simp] theorem relabel_bare (symbol : Symbol) :
    (bare symbol).relabel label = bare (label symbol) := by
  rw [bare, relabel, relabelAll, bare]

@[simp] theorem isBare_relabel (tree : Tree) :
    (tree.relabel label).isBare = tree.isBare := by
  obtain ⟨symbol, children, word⟩ := tree
  rw [relabel]
  cases children <;> rfl

mutual

/-- Labels that are put back are the first ones. -/
theorem relabel_relabel {back : Symbol → Symbol}
    (inverse : ∀ symbol, back (label symbol) = symbol) (tree : Tree) :
    (tree.relabel label).relabel back = tree := by
  obtain ⟨symbol, children, word⟩ := tree
  rw [relabel, relabel, inverse, relabelAll_relabelAll inverse children]

theorem relabelAll_relabelAll {back : Symbol → Symbol}
    (inverse : ∀ symbol, back (label symbol) = symbol) (trees : List Tree) :
    relabelAll back (relabelAll label trees) = trees := by
  match trees with
  | [] => rfl
  | tree :: more =>
      rw [relabelAll, relabelAll, relabel_relabel inverse tree,
        relabelAll_relabelAll inverse more]

end

end Tree

namespace Chart

/-- The chart with other words and symbols. -/
def rename (chart : Chart) (name : Symbol → Symbol) : Chart :=
  tabulate (chart.tokens.map name) (name chart.start)
    (by simpa using chart.tokens_ne_nil)
    fun first last => (chart.cell first last).map name

variable (chart : Chart) {grammar : Grammar} {first last : Nat}

@[simp] theorem length_rename :
    (chart.rename name).length = chart.length :=
  List.length_map name

theorem cell_rename (first last : Nat) :
    (chart.rename name).cell first last =
      (chart.cell first last).map name := by
  cases span : chart.isSpan first last with
  | true =>
      obtain ⟨ordered, inside⟩ := isSpan_iff.mp span
      exact cell_tabulate ordered (by rwa [List.length_map])
  | false =>
      have span' : (chart.rename name).isSpan first last = false := by
        rwa [isSpan, length_rename]
      rw [cell_eq_nil_of_not_isSpan span, cell_eq_nil_of_not_isSpan span']
      rfl

theorem token_rename (inside : first < chart.length) :
    (chart.rename name).token first = name (chart.token first) := by
  rw [length] at inside
  simp [token, rename, tabulate, inside]

variable (injective : Function.Injective name)
include injective

theorem accepted_rename : (chart.rename name).accepted = chart.accepted := by
  rw [accepted, accepted, whole, whole, cell_rename, length_rename]
  exact contains_map_of_injective injective _ _

theorem joined?_rename (first cut last : Nat) (body : List Symbol) :
    (chart.rename name).joined? first cut last (body.map name) =
      (chart.joined? first cut last body).map fun (cut, left, right) =>
        (cut, name left, name right) := by
  rcases body with _ | ⟨left, _ | ⟨right, _ | ⟨third, more⟩⟩⟩
  · rfl
  · rfl
  · simp only [joined?, List.map_cons, List.map_nil, cell_rename,
      contains_map_of_injective injective]
    split <;> rfl
  · rfl

theorem cut?_rename (symbol : Symbol) :
    (chart.rename name).cut? (grammar.rename name injective) first last
        (name symbol) =
      (chart.cut? grammar first last symbol).map fun (cut, left, right) =>
        (cut, name left, name right) := by
  rw [cut?_eq, cut?_eq, List.map_findSome?]
  congr 1
  funext cut
  rw [Function.comp, List.map_findSome?, grammar.bodiesOf_rename injective,
    List.findSome?_map]
  congr 1
  funext body
  exact chart.joined?_rename injective first cut last body

theorem target?_rename (seen body : List Symbol) :
    (chart.rename name).target? (grammar.rename name injective) first last
        (seen.map name) (body.map name) =
      (chart.target? grammar first last seen body).map name := by
  rcases body with _ | ⟨target, _ | ⟨second, more⟩⟩
  · rfl
  · simp only [target?, List.map_cons, List.map_nil, cell_rename,
      contains_map_of_injective injective,
      grammar.isTerminal_rename injective]
    split <;> rfl
  · rfl

theorem targets_rename (seen : List Symbol) (symbol : Symbol) :
    (chart.rename name).targets (grammar.rename name injective) first last
        (seen.map name) (name symbol) =
      (chart.targets grammar first last seen symbol).map name := by
  rw [targets_eq, targets_eq, List.map_filterMap,
    grammar.bodiesOf_rename injective, List.filterMap_map]
  congr 1
  funext body
  exact chart.target?_rename injective seen body

theorem contains_bodiesOf_rename (inside : first < chart.length)
    (symbol : Symbol) :
    ((grammar.rename name injective).bodiesOf (name symbol)).contains
        [(chart.rename name).token first] =
      (grammar.bodiesOf symbol).contains [chart.token first] := by
  have single : [(chart.rename name).token first] =
      [chart.token first].map name := by
    rw [chart.token_rename inside]
    rfl
  rw [Bool.eq_iff_iff, List.contains_iff_mem, List.contains_iff_mem,
    grammar.bodiesOf_rename injective, single,
    List.mem_map_of_injective (List.map_injective_iff.mpr injective)]

omit injective in
private theorem findSome?_map_name {items : List Symbol}
    {find find' : Symbol → Option Tree}
    (same : ∀ item ∈ items,
      find' (name item) = (find item).map (Tree.relabel name)) :
    (items.map name).findSome? find' =
      (items.findSome? find).map (Tree.relabel name) := by
  induction items with
  | nil => rfl
  | cons item rest ih =>
      obtain ⟨first, more⟩ := List.forall_mem_cons.mp same
      rw [List.map_cons, List.findSome?_cons, List.findSome?_cons, first]
      cases find item with
      | none => exact ih more
      | some found => rfl

/-- The first tree that is not bare among those of the targets, if the tree of
each target is the renamed one. -/
theorem findSome?_targets_rename {shown : Nat → Option String}
    {seen : List Symbol} {symbol : Symbol}
    (children : ∀ target ∈
        chart.targets grammar first last (symbol :: seen) symbol,
      (chart.rename name).treeShowing (grammar.rename name injective) shown
          first last (name symbol :: seen.map name) (name target) =
        (chart.treeAt grammar first last (symbol :: seen) target).relabel
          name) :
    ((chart.rename name).targets (grammar.rename name injective) first last
        (name symbol :: seen.map name) (name symbol)).findSome?
        (fun target =>
          let child := (chart.rename name).treeShowing
            (grammar.rename name injective) shown first last
            (name symbol :: seen.map name) target
          if child.isBare then none else some child) =
      ((chart.targets grammar first last (symbol :: seen) symbol).findSome?
        fun target =>
          let child := chart.treeAt grammar first last (symbol :: seen) target
          if child.isBare then none else some child).map
        (Tree.relabel name) := by
  rw [← List.map_cons, chart.targets_rename injective, List.map_cons]
  apply findSome?_map_name
  intro target member
  simp only [children target member, Tree.isBare_relabel]
  split <;> rfl

/-- The tree from a renamed chart is the renamed tree, as long as every word is
shown as it was. -/
theorem treeShowing_rename {shown : Nat → Option String}
    (shows : ∀ position < chart.length,
      shown position = some (chart.token position))
    (first last : Nat) (seen : List Symbol) (symbol : Symbol) :
    first ≤ last → last < chart.length →
      (chart.rename name).treeShowing (grammar.rename name injective) shown
          first last (seen.map name) (name symbol) =
        (chart.treeAt grammar first last seen symbol).relabel name := by
  apply chart.treeAt_induction grammar
    (motive := fun first last seen symbol =>
      first ≤ last → last < chart.length →
        (chart.rename name).treeShowing (grammar.rename name injective)
            shown first last (seen.map name) (name symbol) =
          (chart.treeAt grammar first last seen symbol).relabel name)
  intro first last seen symbol parts units ordered inside
  have isInside : first < chart.length := Nat.lt_of_le_of_lt ordered inside
  rw [treeShowing_eq, treeAt_eq,
    chart.contains_bodiesOf_rename injective isInside]
  by_cases isLeaf : (first == last &&
      (grammar.bodiesOf symbol).contains [chart.token first]) = true
  · rw [if_pos isLeaf, if_pos isLeaf, shows first isInside, Tree.relabel_leaf]
    rfl
  · rw [if_neg isLeaf, if_neg isLeaf, chart.cut?_rename injective]
    cases found : chart.cut? grammar first last symbol with
    | some joined =>
        obtain ⟨cut, left, right⟩ := joined
        obtain ⟨after, before⟩ := cut?_bounds found
        obtain ⟨leftTree, rightTree⟩ := parts cut left right found
        simp only [Option.map_some, Tree.relabel_pair,
          ← leftTree after (Nat.lt_trans before inside),
          ← rightTree before inside, List.map_nil]
    | none =>
        have child := chart.findSome?_targets_rename injective
          fun target member => units target member ordered inside
        simp only [Option.map_none, child]
        cases (chart.targets grammar first last (symbol :: seen)
            symbol).findSome? _ with
        | none => simp only [Option.map_none, Tree.relabel_bare]
        | some child => simp only [Option.map_some, Tree.relabel_unit]

end Chart

end SentenceChart
