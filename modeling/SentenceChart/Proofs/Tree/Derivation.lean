import SentenceChart.Checker
import SentenceChart.Proofs.Chart.Exactness
import SentenceChart.Proofs.Tree.Search

/-!
# Rebuilt trees are derivations

In an exact chart a symbol fits a span if it derives the words there without a
unit rule first, and steps along the unit rules lead to symbols that derive
them.  So a tree is bare exactly if its symbol derives nothing, and every other
tree is a derivation of the words of its span.
-/

namespace SentenceChart

namespace Tree

/-- Every node of the tree follows a rule: a leaf rewrites its label to its
word, a node with one child follows a unit rule, and a node with two children a
rule with two nonterminals. -/
inductive IsDerivation (grammar : Grammar) : Tree → Prop where
  | leaf {label word : String} :
      (⟨label, [word]⟩ : Rule) ∈ grammar.rules →
      grammar.isTerminal word = true →
      IsDerivation grammar (.leaf label word)
  | unit {label : Symbol} {child : Tree} :
      (⟨label, [child.label]⟩ : Rule) ∈ grammar.rules →
      grammar.isTerminal child.label = false →
      IsDerivation grammar child →
      IsDerivation grammar (.unit label child)
  | pair {label : Symbol} {left right : Tree} :
      (⟨label, [left.label, right.label]⟩ : Rule) ∈ grammar.rules →
      IsDerivation grammar left →
      IsDerivation grammar right →
      IsDerivation grammar (.pair label left right)

@[simp]
theorem leaves_leaf (label word : String) :
    (leaf label word).leaves = [word] := by
  rw [leaf, leaves]

@[simp]
theorem leaves_unit (label : Symbol) (child : Tree) :
    (unit label child).leaves = child.leaves := by
  rw [unit, leaves, leavesOf, leavesOf, List.append_nil]

@[simp]
theorem leaves_pair (label : Symbol) (left right : Tree) :
    (pair label left right).leaves = left.leaves ++ right.leaves := by
  rw [pair, leaves, leavesOf, leavesOf, leavesOf, List.append_nil]

theorem IsDerivation.derives {grammar : Grammar} {tree : Tree}
    (derivation : tree.IsDerivation grammar) :
    grammar.Derives tree.label tree.leaves := by
  induction derivation with
  | leaf member terminal =>
      rw [leaves_leaf]
      exact .word member terminal
  | unit member notTerminal _ ih =>
      rw [leaves_unit]
      exact .unit member notTerminal ih
  | pair member _ _ ihLeft ihRight =>
      rw [leaves_pair]
      exact .pair member ihLeft ihRight

/-- The root follows the rule with the given body, and the trees under it are
derivations. -/
inductive Expands (grammar : Grammar) (label : Symbol) :
    List Symbol → Tree → Prop where
  | leaf {word : String} :
      grammar.isTerminal word = true →
      Expands grammar label [word] (.leaf label word)
  | unit {target : Symbol} {child : Tree} :
      child.label = target →
      grammar.isTerminal target = false →
      child.IsDerivation grammar →
      Expands grammar label [target] (.unit label child)
  | pair {first second : Symbol} {left right : Tree} :
      left.label = first →
      right.label = second →
      left.IsDerivation grammar →
      right.IsDerivation grammar →
      Expands grammar label [first, second] (.pair label left right)

theorem IsDerivation.exists_expands {grammar : Grammar} {tree : Tree}
    {symbol : Symbol} (derivation : tree.IsDerivation grammar)
    (label : tree.label = symbol) :
    ∃ body ∈ grammar.bodiesOf symbol, Expands grammar symbol body tree := by
  subst label
  cases derivation with
  | leaf member terminal =>
      exact ⟨_, Grammar.mem_bodiesOf_iff.mpr member, .leaf terminal⟩
  | unit member notTerminal derivation =>
      exact ⟨_, Grammar.mem_bodiesOf_iff.mpr member,
        .unit rfl notTerminal derivation⟩
  | pair member left right =>
      exact ⟨_, Grammar.mem_bodiesOf_iff.mpr member, .pair rfl rfl left right⟩

end Tree

/-- Whatever a symbol derives has a derivation as a tree. -/
theorem Grammar.derives_iff_exists_tree {grammar : Grammar} {symbol : Symbol}
    {sentence : List Symbol} :
    grammar.Derives symbol sentence ↔
      ∃ tree : Tree, tree.IsDerivation grammar ∧ tree.label = symbol ∧
        tree.leaves = sentence := by
  constructor
  · intro derived
    induction derived with
    | word member terminal =>
        exact ⟨_, .leaf member terminal, rfl, Tree.leaves_leaf _ _⟩
    | unit member notTerminal _ ih =>
        obtain ⟨child, derivation, rfl, rfl⟩ := ih
        exact ⟨_, .unit member notTerminal derivation, rfl,
          Tree.leaves_unit _ _⟩
    | pair member _ _ ihFront ihBack =>
        obtain ⟨left, leftDerivation, rfl, rfl⟩ := ihFront
        obtain ⟨right, rightDerivation, rfl, rfl⟩ := ihBack
        exact ⟨_, .pair member leftDerivation rightDerivation, rfl,
          Tree.leaves_pair _ _ _⟩
  · rintro ⟨tree, derivation, rfl, rfl⟩
    exact derivation.derives

namespace Chart

theorem label_treeAt (chart : Chart) (grammar : Grammar) (first last : Nat)
    (seen : List Symbol) (symbol : Symbol) :
    (chart.treeAt grammar first last seen symbol).label = symbol := by
  rw [treeAt_eq]
  repeat' split
  all_goals rfl

theorem words_self {chart : Chart} {position : Nat}
    (inside : position < chart.length) :
    chart.words position position = [chart.token position] := by
  rw [length] at inside
  rw [words, Nat.sub_self, Span.part_one inside, token]
  simp [inside]

theorem token_mem {chart : Chart} {position : Nat}
    (inside : position < chart.length) :
    chart.token position ∈ chart.tokens := by
  rw [token, List.getD_eq_getElem?_getD, List.getElem?_eq_getElem inside]
  exact List.getElem_mem inside

theorem isLeafAt_iff_hasWord {chart : Chart} {grammar : Grammar}
    {first last : Nat} (ordered : first ≤ last) (inside : last < chart.length)
    {symbol : Symbol} :
    chart.IsLeafAt grammar first last symbol ↔
      grammar.HasWord symbol (chart.words first last) := by
  constructor
  · rintro ⟨rfl, member⟩
    exact ⟨chart.token first, words_self inside,
      Grammar.mem_bodiesOf_iff.mp member⟩
  · rintro ⟨word, single, member⟩
    have count := length_words ordered inside
    rw [single, List.length_singleton] at count
    obtain rfl : first = last := by omega
    rw [words_self inside] at single
    cases single
    exact ⟨rfl, Grammar.mem_bodiesOf_iff.mpr member⟩

namespace IsExact

theorem joins_iff {chart : Chart} {grammar : Grammar}
    (exact : chart.IsExact grammar) {first cut last : Nat}
    (ordered : first ≤ cut) (before : cut < last)
    (inside : last < chart.length) (body : List Symbol) :
    chart.Joins first cut last body ↔
      grammar.SplitsAs (chart.words first last) (cut - first + 1) body := by
  have cutInside : cut < chart.length := Nat.lt_trans before inside
  simp only [Joins, Grammar.SplitsAs, take_words (Nat.le_of_lt before),
    drop_words ordered before, exact.mem_cell_iff ordered cutInside,
    exact.mem_cell_iff before inside]

/-- A word that a rule meets is a terminal, so all that meets is derived. -/
theorem derivesDirectly_iff_meets {chart : Chart} {grammar : Grammar}
    (exact : chart.IsExact grammar) {first last : Nat} {symbol : Symbol} :
    grammar.DerivesDirectly symbol (chart.words first last) ↔
      grammar.Meets (chart.words first last) symbol := by
  constructor
  · rintro (⟨word, single, _, member⟩ | cut)
    · exact .inl ⟨word, single, member⟩
    · exact .inr cut
  · rintro (⟨word, single, member⟩ | cut)
    · refine .inl ⟨word, single, ?_, member⟩
      have inWords : word ∈ chart.words first last := by simp [single]
      exact exact.isTerminal_of_mem
        (List.mem_of_mem_drop (List.mem_of_mem_take inWords))
    · exact .inr cut

variable {chart : Chart} {grammar : Grammar} (exact : chart.IsExact grammar)
  {first last : Nat} (ordered : first ≤ last) (inside : last < chart.length)

include exact ordered inside

theorem isSome_cut?_iff_hasCut (symbol : Symbol) :
    (chart.cut? grammar first last symbol).isSome = true ↔
      grammar.HasCut symbol (chart.words first last) := by
  rw [isSome_cut?_iff]
  constructor
  · rintro ⟨cut, after, before, body, member, joined⟩
    exact ⟨cut - first + 1, body, member,
      (exact.joins_iff after before inside body).mp joined⟩
  · rintro ⟨size, body, member, splits⟩
    have bounds := splits.size_bounds
    rw [length_words ordered inside] at bounds
    have place : size = first + (size - 1) - first + 1 := by omega
    rw [place] at splits
    exact ⟨first + (size - 1), by omega, by omega, body, member,
      (exact.joins_iff (by omega) (by omega) inside body).mpr splits⟩

theorem fits_iff_meets (symbol : Symbol) :
    chart.Fits grammar first last symbol ↔
      grammar.Meets (chart.words first last) symbol := by
  rw [Fits, isLeafAt_iff_hasWord ordered inside,
    exact.isSome_cut?_iff_hasCut ordered inside, Grammar.Meets]

theorem stepsTo_iff_unitStep (symbol target : Symbol) :
    chart.StepsTo grammar first last symbol target ↔
      grammar.UnitStep (chart.words first last) symbol target := by
  rw [StepsTo, Grammar.UnitStep, Grammar.mem_bodiesOf_iff,
    exact.mem_cell_iff ordered inside, Grammar.isTerminal_eq_false_iff]

/-- What is reached in the cell of a span is reached among the symbols that
derive its words. -/
theorem reachesAvoiding_iff (avoided : List Symbol) (symbol : Symbol) :
    ReachesAvoiding (chart.StepsTo grammar first last)
        (chart.Fits grammar first last) avoided symbol ↔
      ReachesAvoiding (grammar.UnitStep (chart.words first last))
        (grammar.Meets (chart.words first last)) avoided symbol := by
  have steps := exact.stepsTo_iff_unitStep ordered inside
  have meets := exact.fits_iff_meets ordered inside
  constructor
  · exact .mono (fun _ _ => (steps _ _).mp) (fun _ => (meets _).mp)
  · exact .mono (fun _ _ => (steps _ _).mpr) (fun _ => (meets _).mpr)

/-- What derives the words of a span leads to a symbol that meets them. -/
theorem reachesAvoiding_nil_iff (symbol : Symbol) :
    ReachesAvoiding (chart.StepsTo grammar first last)
        (chart.Fits grammar first last) [] symbol ↔
      grammar.Derives symbol (chart.words first last) := by
  rw [exact.reachesAvoiding_iff ordered inside]
  constructor
  · intro reached
    induction reached with
    | here meets => exact (exact.derivesDirectly_iff_meets.mpr meets).derives
    | step taken _ _ ih => exact .unit taken.1 taken.2.1 ih
  · intro derived
    obtain ⟨target, reached, direct⟩ := Grammar.derives_iff.mp derived
    clear derived
    induction reached with
    | refl => exact .here (exact.derivesDirectly_iff_meets.mp direct)
    | step member notTerminal rest ih =>
        have derivesNext := rest.derives direct.derives
        exact .step ⟨member, notTerminal, derivesNext⟩ List.not_mem_nil
          (ih direct)

theorem isBare_treeAt_nil_eq_false_iff (symbol : Symbol) :
    (chart.treeAt grammar first last [] symbol).isBare = false ↔
      symbol ∈ chart.cell first last := by
  rw [isBare_treeAt_eq_false_iff, exact.reachesAvoiding_nil_iff ordered inside,
    exact.mem_cell_iff ordered inside]

end IsExact

theorem Rebuilds.isDerivation {chart : Chart} {grammar : Grammar}
    (exact : chart.IsExact grammar) {first last : Nat} {seen : List Symbol}
    {symbol : Symbol} {tree : Tree}
    (rebuilt : chart.Rebuilds grammar first last seen symbol tree)
    (ordered : first ≤ last) (inside : last < chart.length)
    (notBare : tree.isBare = false) :
    tree.IsDerivation grammar ∧ tree.leaves = chart.words first last := by
  induction rebuilt with
  | @leaf position seen symbol member =>
      have terminal := exact.isTerminal_of_mem (token_mem inside)
      rw [Tree.leaves_leaf, words_self inside]
      exact ⟨.leaf (Grammar.mem_bodiesOf_iff.mp member) terminal, rfl⟩
  | @pair first last cut seen symbol left right _ found _ _ ihLeft ihRight =>
      obtain ⟨after, before⟩ := cut?_bounds found
      have isFirst := (isFirst_of_cut?_eq_some found).2
      obtain ⟨_, _, bodyEq, inLeft, inRight⟩ := isFirst.fits_self
      cases bodyEq
      have cutInside : cut < chart.length := by omega
      -- Nothing was seen over the parts, so their trees are not bare.
      obtain ⟨leftDerivation, leftLeaves⟩ := ihLeft after cutInside
        ((exact.isBare_treeAt_nil_eq_false_iff after cutInside left).mpr inLeft)
      obtain ⟨rightDerivation, rightLeaves⟩ := ihRight before inside
        ((exact.isBare_treeAt_nil_eq_false_iff before inside right).mpr inRight)
      constructor
      · refine .pair ?_ leftDerivation rightDerivation
        rw [label_treeAt, label_treeAt]
        exact Grammar.mem_bodiesOf_iff.mp isFirst.mem
      · rw [Tree.leaves_pair, leftLeaves, rightLeaves,
          words_append after before]
  | @unit first last seen symbol target _ _ isFirst _ ih =>
      obtain ⟨ruleMember, notTerminal, _⟩ :=
        (exact.stepsTo_iff_unitStep ordered inside _ _).mp
          (mem_targets_iff.mp isFirst.mem).1
      obtain ⟨derivation, leaves⟩ := ih ordered inside isFirst.fits_self
      rw [Tree.leaves_unit]
      refine ⟨.unit ?_ ?_ derivation, leaves⟩
      · rwa [label_treeAt]
      · rwa [label_treeAt]
  | bare => cases notBare

theorem IsExact.isBare_tree_eq_false_iff {chart : Chart} {grammar : Grammar}
    (exact : chart.IsExact grammar) (symbol : Symbol) :
    (chart.tree grammar symbol).isBare = false ↔ symbol ∈ chart.whole :=
  exact.isBare_treeAt_nil_eq_false_iff (Nat.zero_le _) chart.last_lt symbol

theorem IsExact.tree_isDerivation {chart : Chart} {grammar : Grammar}
    (exact : chart.IsExact grammar) {symbol : Symbol}
    (member : symbol ∈ chart.whole) :
    (chart.tree grammar symbol).IsDerivation grammar ∧
      (chart.tree grammar symbol).leaves = chart.tokens := by
  rw [← words_whole]
  exact (chart.rebuilds_treeAt grammar _ _ _ _).isDerivation exact
    (Nat.zero_le _) chart.last_lt
    ((exact.isBare_tree_eq_false_iff symbol).mpr member)

theorem IsExact.tree_eq_bare {chart : Chart} {grammar : Grammar}
    (exact : chart.IsExact grammar) {symbol : Symbol}
    (absent : symbol ∉ chart.whole) :
    chart.tree grammar symbol = .bare symbol := by
  apply treeAt_eq_bare_of_isBare
  by_cases bare : (chart.tree grammar symbol).isBare = true
  · exact bare
  · have notBare := Bool.eq_false_iff.mpr bare
    exact absurd ((exact.isBare_tree_eq_false_iff symbol).mp notBare) absent

end Chart

namespace Checker

theorem checkTokens_of_ok {checker : Checker} {tokens : List String}
    {chart : Chart} (filled : checker.chart? tokens = .ok chart) :
    checker.checkTokens tokens =
      if chart.accepted then .valid (chart.startTree checker.grammar)
      else .invalid (.ofChart chart) := by
  rw [checkTokens, examineTokens, filled]
  rfl

theorem checkTokens_of_error {checker : Checker} {tokens : List String}
    {rejection : Rejection} (rejected : checker.chart? tokens = .error rejection) :
    checker.checkTokens tokens = .ofRejection rejection := by
  rw [checkTokens, examineTokens, rejected]
  rfl

theorem exists_chart_of_checkTokens_eq_valid {checker : Checker}
    {tokens : List String} {tree : Tree}
    (valid : checker.checkTokens tokens = .valid tree) :
    ∃ chart, checker.chart? tokens = .ok chart ∧ chart.accepted = true ∧
      tree = chart.startTree checker.grammar := by
  cases filled : checker.chart? tokens with
  | error rejection =>
      rw [checkTokens_of_error filled] at valid
      exact (Verdict.ofRejection_ne_valid rejection tree valid).elim
  | ok chart =>
      rw [checkTokens_of_ok filled] at valid
      split at valid
      · rename_i accepted
        cases valid
        exact ⟨chart, rfl, accepted, rfl⟩
      · cases valid

theorem derivation_of_checkTokens_eq_valid {checker : Checker}
    {tokens : List String} {tree : Tree}
    (valid : checker.checkTokens tokens = .valid tree) :
    tree.label = checker.grammar.start ∧
      tree.IsDerivation checker.grammar ∧
      tree.leaves = tokens.map Sentence.lowercase := by
  obtain ⟨chart, filled, accepted, rfl⟩ :=
    exists_chart_of_checkTokens_eq_valid valid
  have exact := Grammar.isExact_of_chart? filled
  have member : chart.start ∈ chart.whole := List.contains_iff_mem.mp accepted
  obtain ⟨derivation, leaves⟩ := exact.tree_isDerivation member
  rw [Grammar.tokens_of_chart? filled] at leaves
  refine ⟨?_, derivation, leaves⟩
  rw [← exact.start_eq]
  exact Chart.label_treeAt _ _ _ _ _ _

/-- The tree of a symbol over a whole sentence is a derivation if the symbol is
in the cell of the sentence, and a bare node otherwise; so a valid verdict comes
with a derivation of the lower-case words. -/
theorem tree_isDerivation_or_bare (checker : Checker) (tokens : List String) :
    (∀ chart, checker.chart? tokens = .ok chart →
      chart.startTree checker.grammar =
          chart.tree checker.grammar checker.grammar.start ∧
        ∀ symbol,
          (symbol ∈ chart.cell 0 (chart.length - 1) →
            (chart.tree checker.grammar symbol).label = symbol ∧
              (chart.tree checker.grammar symbol).IsDerivation
                checker.grammar ∧
              (chart.tree checker.grammar symbol).leaves = chart.tokens) ∧
          (symbol ∉ chart.cell 0 (chart.length - 1) →
            chart.tree checker.grammar symbol = .bare symbol)) ∧
      ∀ tree, checker.checkTokens tokens = .valid tree →
        tree.label = checker.grammar.start ∧
          tree.IsDerivation checker.grammar ∧
          tree.leaves = tokens.map Sentence.lowercase ∧
          checker.grammar.Derives checker.grammar.start
            (tokens.map Sentence.lowercase) := by
  constructor
  · intro chart filled
    have exact := Grammar.isExact_of_chart? filled
    constructor
    · rw [Chart.startTree, exact.start_eq]
    · intro symbol
      constructor
      · intro member
        exact ⟨Chart.label_treeAt _ _ _ _ _ _, exact.tree_isDerivation member⟩
      · exact exact.tree_eq_bare
  · intro tree valid
    obtain ⟨label, derivation, leaves⟩ :=
      derivation_of_checkTokens_eq_valid valid
    refine ⟨label, derivation, leaves, ?_⟩
    rw [← label, ← leaves]
    exact derivation.derives

/-- The checker of the grammar whose nonterminals rewrite to each other. -/
def cyclic : Checker where
  grammar := Grammar.cyclic
  limit := some 2

theorem tree_isDerivation_or_bare_cyclic :
    ∃ chart tree, cyclic.chart? ["Go", "GO"] = .ok chart ∧
      "A" ∈ chart.cell 0 (chart.length - 1) ∧
      (chart.tree Grammar.cyclic "A").IsDerivation Grammar.cyclic ∧
      (chart.tree Grammar.cyclic "A").leaves = ["go", "go"] ∧
      "go" ∉ chart.cell 0 (chart.length - 1) ∧
      chart.tree Grammar.cyclic "go" = .bare "go" ∧
      cyclic.checkTokens ["Go", "GO"] = .valid tree ∧
      tree.leaves = ["go", "go"] := by
  obtain ⟨trees, verdicts⟩ := tree_isDerivation_or_bare cyclic ["Go", "GO"]
  obtain ⟨chart, filled⟩ :
      ∃ chart, cyclic.chart? ["Go", "GO"] = .ok chart :=
    Grammar.exists_chart?_cyclic
  have exact := Grammar.isExact_of_chart? filled
  have tokens := Grammar.tokens_of_chart? filled
  rw [Grammar.cyclic_lowercase] at tokens verdicts
  have accepted : chart.accepted = true := by
    rw [exact.accepted_iff, tokens]
    exact Grammar.derives_cyclic
  have held : "A" ∈ chart.whole := by
    rw [exact.mem_whole_iff, tokens]
    exact .unit (by decide) (by decide) Grammar.derives_cyclic
  have absent : "go" ∉ chart.whole := by
    rw [exact.mem_whole_iff]
    intro derived
    exact absurd derived.head_mem (by decide)
  have valid : cyclic.checkTokens ["Go", "GO"] =
      .valid (chart.startTree cyclic.grammar) := by
    rw [checkTokens_of_ok filled, if_pos accepted]
  obtain ⟨_, derivation, leaves⟩ := ((trees chart filled).2 "A").1 held
  rw [tokens] at leaves
  exact ⟨chart, _, filled, held, derivation, leaves, absent,
    ((trees chart filled).2 "go").2 absent, valid, (verdicts _ valid).2.2.1⟩

end Checker

end SentenceChart
