import SentenceChart.Tree.Basic

/-!
# The nodes of a tree

The subtrees of a tree are its nodes: each comes before the nodes below it, and
those of a child before those of the next one.  A tree has its words at its ends
if no node has both a word and children.  The leaves of such a tree are the words
of its nodes.
-/

namespace SentenceChart.Tree

mutual

/-- The subtrees from the root on, one for each node. -/
def subtrees : Tree → List Tree
  | .node label children word =>
      .node label children word :: subtreesOf children

def subtreesOf : List Tree → List Tree
  | [] => []
  | tree :: more => tree.subtrees ++ subtreesOf more

end

theorem self_mem_subtrees (tree : Tree) : tree ∈ tree.subtrees := by
  cases tree
  rw [subtrees]
  exact List.mem_cons_self

theorem mem_subtreesOf_iff {node : Tree} {trees : List Tree} :
    node ∈ subtreesOf trees ↔ ∃ tree ∈ trees, node ∈ tree.subtrees := by
  induction trees with
  | nil => simp [subtreesOf]
  | cons tree more ih => simp [subtreesOf, ih]

/-- A word is at a node without children, and labels and words are of the given
kinds. -/
inductive WordsAtEnds (isLabel isWord : String → Prop) : Tree → Prop where
  | leaf {label word : String} :
      isLabel label → isWord word →
      WordsAtEnds isLabel isWord (.leaf label word)
  | inner {label : Symbol} {children : List Tree} :
      isLabel label →
      (∀ child ∈ children, WordsAtEnds isLabel isWord child) →
      WordsAtEnds isLabel isWord (.node label children none)

variable {isLabel isWord : String → Prop}

theorem wordsAtEnds_iff {tree : Tree} :
    tree.WordsAtEnds isLabel isWord ↔
      ∀ node ∈ tree.subtrees, isLabel node.label ∧
        ∀ word ∈ node.word?, isWord word ∧ node.children = [] := by
  obtain ⟨label, children, word⟩ := tree
  have each : ∀ child ∈ children, child.WordsAtEnds isLabel isWord ↔
      ∀ node ∈ child.subtrees, isLabel node.label ∧
        ∀ word ∈ node.word?, isWord word ∧ node.children = [] :=
    fun child _ => wordsAtEnds_iff
  rw [subtrees, List.forall_mem_cons]
  constructor
  · intro ends
    cases ends with
    | leaf suited wordSuited =>
        refine ⟨⟨suited, ?_⟩, by simp [subtreesOf]⟩
        intro word member
        cases member
        exact ⟨wordSuited, rfl⟩
    | inner suited below =>
        refine ⟨⟨suited, by simp [word?]⟩, ?_⟩
        intro node member
        obtain ⟨child, childMember, inChild⟩ := mem_subtreesOf_iff.mp member
        exact (each child childMember).mp (below child childMember) node inChild
  · intro suited
    obtain ⟨⟨labelSuited, wordSuited⟩, below⟩ := suited
    cases word with
    | some word =>
        obtain ⟨isWord, childless⟩ := wordSuited word rfl
        cases childless
        exact .leaf labelSuited isWord
    | none =>
        refine .inner labelSuited fun child member => ?_
        apply (each child member).mpr
        intro node inChild
        exact below node (mem_subtreesOf_iff.mpr ⟨child, member, inChild⟩)

instance [DecidablePred isLabel] [DecidablePred isWord] (tree : Tree) :
    Decidable (tree.WordsAtEnds isLabel isWord) :=
  decidable_of_iff _ wordsAtEnds_iff.symm

private theorem leavesOf_eq {trees : List Tree}
    (each : ∀ tree ∈ trees, tree.leaves = tree.subtrees.filterMap word?) :
    leavesOf trees = (subtreesOf trees).filterMap word? := by
  induction trees with
  | nil => rfl
  | cons tree more ih =>
      obtain ⟨here, others⟩ := List.forall_mem_cons.mp each
      rw [leavesOf, subtreesOf, List.filterMap_append, here, ih others]

theorem WordsAtEnds.leaves_eq {tree : Tree}
    (ends : tree.WordsAtEnds isLabel isWord) :
    tree.leaves = tree.subtrees.filterMap word? := by
  induction ends with
  | leaf => rfl
  | inner _ _ ih =>
      rw [leaves, subtrees, leavesOf_eq ih]
      rfl

end SentenceChart.Tree
