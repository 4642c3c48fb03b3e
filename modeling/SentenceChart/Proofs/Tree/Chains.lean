import Mathlib.Data.List.Perm.Subperm
import SentenceChart.Proofs.Tree.AnyChart
import SentenceChart.Proofs.Tree.Nodes

/-!
# Chains of unit rules in rebuilt trees

The chain of a node goes down from it as long as there is one child.  In a
rebuilt tree no label comes twice in a chain, since the symbols of a chain are
not visited again, whatever the cells of the chart hold.  So a chain is no longer
than the list of nonterminals.  Where a chain ends the tree ends or branches in
two, which it can do only as often as the sentence can be cut, and this bounds the
number of its nodes.
-/

namespace SentenceChart

namespace Tree

mutual

/-- The labels from the root down to the first node that has not exactly one
child, which is the last one. -/
def chain : Tree → List Symbol
  | .node label children _ => label :: chainOf children

def chainOf : List Tree → List Symbol
  | [child] => child.chain
  | _ => []

end

/-- The number of nodes. -/
def size (tree : Tree) : Nat :=
  tree.subtrees.length

/-- The number of nodes without children. -/
def ends (tree : Tree) : Nat :=
  tree.subtrees.countP (·.children.isEmpty)

section Shapes

variable (label : Symbol) (word : String) (child left right : Tree)

@[simp]
theorem subtrees_leaf : (leaf label word).subtrees = [leaf label word] := by
  rw [leaf, subtrees, subtreesOf]

@[simp]
theorem subtrees_bare : (bare label).subtrees = [bare label] := by
  rw [bare, subtrees, subtreesOf]

@[simp]
theorem subtrees_unit :
    (unit label child).subtrees = unit label child :: child.subtrees := by
  rw [unit, subtrees, subtreesOf, subtreesOf, List.append_nil]

@[simp]
theorem subtrees_pair :
    (pair label left right).subtrees =
      pair label left right :: (left.subtrees ++ right.subtrees) := by
  rw [pair, subtrees, subtreesOf, subtreesOf, subtreesOf, List.append_nil]

@[simp]
theorem chain_leaf : (leaf label word).chain = [label] := rfl

@[simp]
theorem chain_bare : (bare label).chain = [label] := rfl

@[simp]
theorem chain_unit : (unit label child).chain = label :: child.chain := rfl

@[simp]
theorem chain_pair : (pair label left right).chain = [label] := rfl

@[simp]
theorem size_leaf : (leaf label word).size = 1 := by
  rw [size, subtrees_leaf, List.length_singleton]

@[simp]
theorem size_bare : (bare label).size = 1 := by
  rw [size, subtrees_bare, List.length_singleton]

@[simp]
theorem size_unit : (unit label child).size = child.size + 1 := by
  rw [size, subtrees_unit, List.length_cons, size]

@[simp]
theorem size_pair :
    (pair label left right).size = left.size + right.size + 1 := by
  rw [size, subtrees_pair, List.length_cons, List.length_append, size, size]

@[simp]
theorem ends_leaf : (leaf label word).ends = 1 := by
  rw [ends, subtrees_leaf]
  rfl

@[simp]
theorem ends_bare : (bare label).ends = 1 := by
  rw [ends, subtrees_bare]
  rfl

@[simp]
theorem ends_unit : (unit label child).ends = child.ends := by
  rw [ends, subtrees_unit, List.countP_cons]
  rfl

@[simp]
theorem ends_pair :
    (pair label left right).ends = left.ends + right.ends := by
  rw [ends, subtrees_pair, List.countP_cons, List.countP_append]
  rfl

end Shapes

end Tree

theorem Grammar.mem_nonterminals_of_pair {grammar : Grammar}
    {head left right : Symbol}
    (member : (⟨head, [left, right]⟩ : Rule) ∈ grammar.rules) :
    left ∈ grammar.nonterminals ∧ right ∈ grammar.nonterminals := by
  have normal := grammar.isNearNormal_of_mem _ member
  simpa [Rule.isNearNormal, nonterminals] using normal

namespace Tree.FollowsRules

variable {grammar : Grammar} {tree : Tree}
  (follows : tree.FollowsRules grammar)

include follows

/-- Only a bare node stands for a symbol without rules. -/
theorem label_mem_or_eq_bare :
    tree.label ∈ grammar.nonterminals ∨ tree = .bare tree.label := by
  cases follows with
  | leaf member =>
      exact .inl (Grammar.mem_nonterminals_iff.mpr ⟨_, member, rfl⟩)
  | unit member =>
      exact .inl (Grammar.mem_nonterminals_iff.mpr ⟨_, member, rfl⟩)
  | pair member =>
      exact .inl (Grammar.mem_nonterminals_iff.mpr ⟨_, member, rfl⟩)
  | bare => exact .inr rfl

theorem mem_nonterminals_of_mem_chain
    (label_mem : tree.label ∈ grammar.nonterminals) :
    ∀ label ∈ tree.chain, label ∈ grammar.nonterminals := by
  induction follows with
  | leaf | pair | bare =>
      intro label member
      cases List.mem_singleton.mp member
      exact label_mem
  | unit _ notTerminal _ _ ih =>
      have childMem := Grammar.isTerminal_eq_false_iff.mp notTerminal
      exact List.forall_mem_cons.mpr ⟨label_mem, ih childMem⟩

theorem length_chain_le (label_mem : tree.label ∈ grammar.nonterminals)
    (distinct : tree.chain.Nodup) :
    tree.chain.length ≤ grammar.nonterminals.length := by
  have inside := follows.mem_nonterminals_of_mem_chain label_mem
  exact (distinct.subperm fun label => inside label).length_le

/-- Every node is on one chain.  Each branching adds a node without children, and
two chains at most as long as the list of nonterminals. -/
theorem size_le (label_mem : tree.label ∈ grammar.nonterminals)
    (distinct : ∀ subtree ∈ tree.subtrees, subtree.chain.Nodup) :
    tree.size + 2 * grammar.nonterminals.length ≤
      tree.chain.length + 2 * (tree.ends * grammar.nonterminals.length) := by
  -- The chain of the root stands for its own length here and not for the most
  -- it can have, so a unit rule adds one node on both sides.
  induction follows with
  | leaf | bare => simp
  | unit _ notTerminal _ _ ih =>
      have childMem := Grammar.isTerminal_eq_false_iff.mp notTerminal
      rw [subtrees_unit, List.forall_mem_cons] at distinct
      have childSize := ih childMem distinct.2
      simp
      omega
  | @pair _ left right member followsLeft followsRight ihLeft ihRight =>
      obtain ⟨leftMem, rightMem⟩ := Grammar.mem_nonterminals_of_pair member
      rw [subtrees_pair, List.forall_mem_cons, List.forall_mem_append]
        at distinct
      obtain ⟨_, leftDistinct, rightDistinct⟩ := distinct
      have leftSize := ihLeft leftMem leftDistinct
      have rightSize := ihRight rightMem rightDistinct
      have leftChain := followsLeft.length_chain_le leftMem
        (leftDistinct left left.self_mem_subtrees)
      have rightChain := followsRight.length_chain_le rightMem
        (rightDistinct right right.self_mem_subtrees)
      rw [size_pair, chain_pair, ends_pair, List.length_singleton, Nat.add_mul]
      omega

/-- A tree with at most one node without children for each word has at most this
many chains, none of them longer than the list of nonterminals. -/
theorem size_le_of_ends_le {words : Nat} (nonempty : 0 < words)
    (few : tree.ends ≤ words)
    (distinct : ∀ subtree ∈ tree.subtrees, subtree.chain.Nodup) :
    tree.size ≤ (2 * words - 1) * grammar.nonterminals.length := by
  rcases follows.label_mem_or_eq_bare with label_mem | isBare
  · have nodes := follows.size_le label_mem distinct
    have chain := follows.length_chain_le label_mem
      (distinct tree tree.self_mem_subtrees)
    have branchings := Nat.mul_le_mul_right grammar.nonterminals.length few
    rw [Nat.sub_mul, Nat.mul_assoc, Nat.one_mul]
    omega
  · have someNonterminal : 0 < grammar.nonterminals.length :=
      List.length_pos_of_mem grammar.start_mem
    rw [isBare, Tree.size_bare]
    exact Nat.mul_pos (by omega) someNonterminal

end Tree.FollowsRules

namespace Chart.Rebuilds

variable {chart : Chart} {grammar : Grammar} {first last : Nat}
  {seen : List Symbol} {symbol : Symbol} {tree : Tree}
  (rebuilt : chart.Rebuilds grammar first last seen symbol tree)

include rebuilt

/-- The chain of a rebuilt tree keeps away from the symbols that were seen, and
no chain in it has a label twice. -/
theorem chains_nodup (fresh : symbol ∉ seen) :
    (∀ label ∈ tree.chain, label ∉ seen) ∧
      ∀ subtree ∈ tree.subtrees, subtree.chain.Nodup := by
  -- A cut forgets what was seen and begins two chains; a unit rule adds its head
  -- to what was seen, which keeps the rest of the chain away from it.
  induction rebuilt with
  | leaf | bare => simpa using fresh
  | pair _ _ _ _ ihLeft ihRight =>
      have left := (ihLeft List.not_mem_nil).2
      have right := (ihRight List.not_mem_nil).2
      rw [Tree.subtrees_pair, List.forall_mem_cons, List.forall_mem_append]
      exact ⟨by simpa using fresh, by simp, left, right⟩
  | @unit first last seen symbol target _ _ isFirst _ ih =>
      obtain ⟨_, notSeen⟩ := mem_targets_iff.mp isFirst.mem
      obtain ⟨avoids, distinct⟩ := ih notSeen
      have notAgain : symbol ∉ (chart.treeAt grammar first last
          (symbol :: seen) target).chain :=
        fun member => avoids symbol member List.mem_cons_self
      rw [Tree.subtrees_unit, List.forall_mem_cons, Tree.chain_unit,
        List.forall_mem_cons]
      refine ⟨⟨fresh, ?_⟩, ?_, distinct⟩
      · intro label member inSeen
        exact avoids label member (List.mem_cons_of_mem _ inSeen)
      · have childDistinct := distinct _ (Tree.self_mem_subtrees _)
        exact List.nodup_cons.mpr ⟨notAgain, childDistinct⟩

theorem ends_le : tree.ends ≤ last - first + 1 := by
  induction rebuilt with
  | leaf | bare => simp
  | pair _ found _ _ ihLeft ihRight =>
      have bounds := cut?_bounds found
      rw [Tree.ends_pair]
      omega
  | unit _ _ _ _ ih =>
      rw [Tree.ends_unit]
      exact ih

end Chart.Rebuilds

/-- Whatever the cells of a chart hold, no chain of a rebuilt tree has a label
twice, from whichever node it goes down.  So the tree has no more nodes than one
with the most branchings and the longest chains between them. -/
theorem Chart.tree_chains_nodup (chart : Chart) (grammar : Grammar)
    (symbol : Symbol) :
    (∀ subtree ∈ (chart.tree grammar symbol).subtrees,
        subtree.chain.Nodup) ∧
      (chart.tree grammar symbol).size ≤
        (2 * chart.length - 1) * grammar.nonterminals.length := by
  have rebuilt := chart.rebuilds_treeAt grammar 0 (chart.length - 1) [] symbol
  have distinct := (rebuilt.chains_nodup List.not_mem_nil).2
  have few : (chart.tree grammar symbol).ends ≤ chart.length := by
    have ends := rebuilt.ends_le
    rwa [Nat.sub_zero, Nat.sub_add_cancel chart.length_pos] at ends
  exact ⟨distinct,
    rebuilt.followsRules.size_le_of_ends_le chart.length_pos few distinct⟩

end SentenceChart
