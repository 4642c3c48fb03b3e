import SentenceChart.Proofs.Tree.Derivation
import SentenceChart.Proofs.Tree.Strict

/-!
# Trees rebuilt from any chart

The cells of a chart may hold anything, so a rebuilt tree need not be a
derivation.  Its nodes still follow the rules of the grammar, and its leaves are
words of the sentence in order; they are all of them exactly if no node is bare.
-/

namespace SentenceChart

namespace Tree

/-- Every node of the tree follows a rule or is bare.  The child of a unit rule
is a nonterminal and is not bare itself. -/
inductive FollowsRules (grammar : Grammar) : Tree → Prop where
  | leaf {label word : String} :
      (⟨label, [word]⟩ : Rule) ∈ grammar.rules →
      FollowsRules grammar (.leaf label word)
  | unit {label : Symbol} {child : Tree} :
      (⟨label, [child.label]⟩ : Rule) ∈ grammar.rules →
      grammar.isTerminal child.label = false →
      child.isBare = false →
      FollowsRules grammar child →
      FollowsRules grammar (.unit label child)
  | pair {label : Symbol} {left right : Tree} :
      (⟨label, [left.label, right.label]⟩ : Rule) ∈ grammar.rules →
      FollowsRules grammar left →
      FollowsRules grammar right →
      FollowsRules grammar (.pair label left right)
  | bare (label : Symbol) : FollowsRules grammar (.bare label)

/-- A node of the tree is bare. -/
inductive HasBare : Tree → Prop where
  | here {tree : Tree} : tree.isBare = true → HasBare tree
  | inChild {tree child : Tree} :
      child ∈ tree.children → HasBare child → HasBare tree

@[simp]
theorem leaves_bare (label : Symbol) : (bare label).leaves = [] := by
  rw [bare, leaves, leavesOf]

theorem hasBare_bare (label : Symbol) : (bare label).HasBare :=
  .here rfl

theorem not_hasBare_leaf (label word : String) : ¬(leaf label word).HasBare := by
  intro found
  cases found with
  | here isBare => cases isBare
  | inChild member => cases member

theorem hasBare_unit_iff {label : Symbol} {child : Tree} :
    (unit label child).HasBare ↔ child.HasBare := by
  constructor
  · intro found
    cases found with
    | here isBare => cases isBare
    | inChild member childHas =>
        cases List.mem_singleton.mp member
        exact childHas
  · exact .inChild (List.mem_singleton.mpr rfl)

theorem hasBare_pair_iff {label : Symbol} {left right : Tree} :
    (pair label left right).HasBare ↔ left.HasBare ∨ right.HasBare := by
  have members {child : Tree} :
      child ∈ (pair label left right).children ↔
        child = left ∨ child = right := by
    simp [pair, children]
  constructor
  · intro found
    cases found with
    | here isBare => cases isBare
    | inChild member childHas =>
        rcases members.mp member with rfl | rfl
        · exact .inl childHas
        · exact .inr childHas
  · rintro (leftHas | rightHas)
    · exact .inChild (members.mpr (.inl rfl)) leftHas
    · exact .inChild (members.mpr (.inr rfl)) rightHas

end Tree

/-- Two parts of two lists make up both lists only if each is the whole of its
list. -/
private theorem append_eq_append_iff_of_sublist {α : Type}
    {front back wholeFront wholeBack : List α}
    (inFront : front.Sublist wholeFront) (inBack : back.Sublist wholeBack) :
    front ++ back = wholeFront ++ wholeBack ↔
      front = wholeFront ∧ back = wholeBack := by
  constructor
  · intro same
    have sameLength := congrArg List.length same
    rw [List.length_append, List.length_append] at sameLength
    have frontShort := inFront.length_le
    have backShort := inBack.length_le
    exact ⟨inFront.eq_of_length (by omega), inBack.eq_of_length (by omega)⟩
  · rintro ⟨rfl, rfl⟩
    rfl

namespace Chart

variable {chart : Chart} {grammar : Grammar}

theorem Rebuilds.followsRules {first last : Nat} {seen : List Symbol}
    {symbol : Symbol} {tree : Tree}
    (rebuilt : chart.Rebuilds grammar first last seen symbol tree) :
    tree.FollowsRules grammar := by
  induction rebuilt with
  | leaf member => exact .leaf (Grammar.mem_bodiesOf_iff.mp member)
  | pair _ found _ _ ihLeft ihRight =>
      have isFirst := (isFirst_of_cut?_eq_some found).2
      refine .pair ?_ ihLeft ihRight
      rw [label_treeAt, label_treeAt]
      exact Grammar.mem_bodiesOf_iff.mp isFirst.mem
  | unit _ _ isFirst _ ih =>
      obtain ⟨⟨member, nonterminal, _⟩, _⟩ := mem_targets_iff.mp isFirst.mem
      refine .unit ?_ ?_ isFirst.fits_self ih
      · rw [label_treeAt]
        exact Grammar.mem_bodiesOf_iff.mp member
      · rw [label_treeAt]
        exact Grammar.isTerminal_eq_false_iff.mpr nonterminal
  | bare => exact .bare _

theorem Rebuilds.leaves_sublist {first last : Nat} {seen : List Symbol}
    {symbol : Symbol} {tree : Tree}
    (rebuilt : chart.Rebuilds grammar first last seen symbol tree)
    (ordered : first ≤ last) (inside : last < chart.length) :
    tree.leaves.Sublist (chart.words first last) ∧
      (tree.leaves = chart.words first last ↔ ¬tree.HasBare) := by
  induction rebuilt with
  | leaf =>
      rw [Tree.leaves_leaf, words_self inside]
      exact ⟨.refl _, iff_of_true rfl (Tree.not_hasBare_leaf _ _)⟩
  | pair _ found _ _ ihLeft ihRight =>
      obtain ⟨after, before⟩ := cut?_bounds found
      obtain ⟨inLeft, leftAll⟩ := ihLeft after (Nat.lt_trans before inside)
      obtain ⟨inRight, rightAll⟩ := ihRight before inside
      rw [Tree.leaves_pair, ← words_append after before]
      refine ⟨inLeft.append inRight, ?_⟩
      rw [append_eq_append_iff_of_sublist inLeft inRight, leftAll, rightAll,
        Tree.hasBare_pair_iff, not_or]
  | unit _ _ _ _ ih =>
      rw [Tree.leaves_unit, Tree.hasBare_unit_iff]
      exact ih ordered inside
  | @bare first last =>
      have count := length_words ordered inside
      rw [Tree.leaves_bare]
      refine ⟨List.nil_sublist _, iff_of_false ?_ ?_⟩
      · intro noWords
        rw [← noWords, List.length_nil] at count
        omega
      · exact fun noBare => noBare (Tree.hasBare_bare _)

/-- Whatever the cells of a chart hold, no position outside the sentence is read
when a tree is rebuilt, the tree follows the rules below its symbol, and its
leaves are words of the sentence in order: all of them unless a node is bare. -/
theorem tree_followsRules (chart : Chart) (grammar : Grammar)
    (symbol : Symbol) :
    chart.strictTree? grammar symbol = some (chart.tree grammar symbol) ∧
      (chart.tree grammar symbol).label = symbol ∧
      (chart.tree grammar symbol).FollowsRules grammar ∧
      (chart.tree grammar symbol).leaves.Sublist chart.tokens ∧
      ((chart.tree grammar symbol).leaves = chart.tokens ↔
        ¬(chart.tree grammar symbol).HasBare) := by
  have rebuilt := chart.rebuilds_treeAt grammar 0 (chart.length - 1) [] symbol
  have leaves := rebuilt.leaves_sublist (Nat.zero_le _) chart.last_lt
  rw [words_whole] at leaves
  exact ⟨strictTreeAt?_eq_some chart grammar _ _ _ _ (Nat.zero_le _)
      chart.last_lt,
    label_treeAt _ _ _ _ _ _, rebuilt.followsRules, leaves⟩

end Chart

end SentenceChart
