import SentenceChart.Grammar.Rule

/-!
# Parse trees

A node has a label, children and perhaps a word.  The trees of a derivation
use four shapes: a leaf with a word, a node with one child, a node with two
children, and a bare node that stands for a part without a derivation.
-/

namespace SentenceChart

/-- A parse tree. -/
inductive Tree where
  | node (label : Symbol) (children : List Tree) (word : Option String)

namespace Tree

def label : Tree → Symbol
  | .node label _ _ => label

def children : Tree → List Tree
  | .node _ children _ => children

def word? : Tree → Option String
  | .node _ _ word => word

/-- A node that derives one word. -/
def leaf (label : Symbol) (word : String) : Tree :=
  .node label [] (some word)

/-- A node of a rule with one nonterminal. -/
def unit (label : Symbol) (child : Tree) : Tree :=
  .node label [child] none

/-- A node of a rule with two nonterminals. -/
def pair (label : Symbol) (left right : Tree) : Tree :=
  .node label [left, right] none

/-- A node without a derivation. -/
def bare (label : Symbol) : Tree :=
  .node label [] none

def isLeaf (tree : Tree) : Bool :=
  tree.word?.isSome

/-- Whether the root has neither children nor a word. -/
def isBare (tree : Tree) : Bool :=
  tree.children.isEmpty && !tree.isLeaf

mutual

/-- The words of a tree from left to right; a word hides the children of its
node. -/
def leaves : Tree → List String
  | .node _ _ (some word) => [word]
  | .node _ children none => leavesOf children

def leavesOf : List Tree → List String
  | [] => []
  | tree :: more => tree.leaves ++ leavesOf more

end

mutual

def decideEq : (left right : Tree) → Decidable (left = right)
  | .node label children word, .node label' children' word' =>
      if sameLabel : label = label' then
        if sameWord : word = word' then
          match decideEqAll children children' with
          | isTrue sameChildren =>
              isTrue (by rw [sameLabel, sameWord, sameChildren])
          | isFalse different =>
              isFalse fun same => different (by injection same)
        else
          isFalse fun same => sameWord (by injection same)
      else
        isFalse fun same => sameLabel (by injection same)

def decideEqAll : (left right : List Tree) → Decidable (left = right)
  | [], [] => isTrue rfl
  | [], _ :: _ => isFalse nofun
  | _ :: _, [] => isFalse nofun
  | tree :: more, tree' :: more' =>
      match decideEq tree tree', decideEqAll more more' with
      | isTrue sameTree, isTrue sameMore =>
          isTrue (by rw [sameTree, sameMore])
      | isFalse different, _ =>
          isFalse fun same => different (by injection same)
      | _, isFalse different =>
          isFalse fun same => different (by injection same)

end

instance : DecidableEq Tree := decideEq

end Tree

end SentenceChart
