import SentenceChart.Loose.Symbol
import SentenceChart.Tree.Written

/-!
# Trees of any values

Any values can be the labels and the words of a tree; a missing word is no
word.  The tree of the shown forms has the texts of such a tree, and the trees
of the keys are equal if the trees themselves are.
-/

namespace SentenceChart

/-- A tree whose labels and words are any values. -/
inductive LooseTree where
  | node (label : Datum) (children : List LooseTree) (word : Datum)

namespace LooseTree

mutual

/-- The tree with a text for every value. -/
def spelled (spell : Datum → String) : LooseTree → Tree
  | .node label children word =>
      .node (spell label) (spelledAll spell children)
        (match word with
        | .missing => none
        | word => some (spell word))

def spelledAll (spell : Datum → String) : List LooseTree → List Tree
  | [] => []
  | tree :: more => tree.spelled spell :: spelledAll spell more

end

/-- The tree with the shown form of every value. -/
def shown (tree : LooseTree) : Tree :=
  tree.spelled Datum.shown

/-- Whether two trees are equal; equal numbers of all types are. -/
def same (left right : LooseTree) : Bool :=
  decide (left.spelled Datum.key = right.spelled Datum.key)

mutual

/-- The words from left to right; a word hides the children of its node. -/
def leaves : LooseTree → List Datum
  | .node _ children .missing => leavesOf children
  | .node _ _ word => [word]

/-- The words of several trees from left to right. -/
def leavesOf : List LooseTree → List Datum
  | [] => []
  | tree :: more => tree.leaves ++ leavesOf more

end

mutual

/-- The record of a tree; the word comes last and only if there is one. -/
def toDatum : LooseTree → Datum
  | .node label children word =>
      .record <|
        [("label", label), ("children", .list (toDatumAll children))] ++
          (match word with
          | .missing => []
          | word => [("word", word)])

def toDatumAll : List LooseTree → List Datum
  | [] => []
  | tree :: more => tree.toDatum :: toDatumAll more

end

mutual

/-- Whether every label and word can be a symbol. -/
def hasSymbols : LooseTree → Bool
  | .node label children word =>
      label.isSymbol && word.isSymbol && haveSymbols children

/-- Whether every label and word of several trees can be a symbol. -/
def haveSymbols : List LooseTree → Bool
  | [] => true
  | tree :: more => tree.hasSymbols && haveSymbols more

end

end LooseTree

namespace Datum

/-- The margin of a level, if the value can be an indentation.  A text or a
list is repeated and a number multiplied. -/
def margin? (indent : Datum) (level : Nat) : Option Datum :=
  match indent with
  | .text indent =>
      some (.text (String.ofList (Tree.margin indent.toList level)))
  | .list items => some (.list (List.replicate level items).flatten)
  | .real value => some (.real (value * Float.ofNat level))
  | value => value.integer?.map fun number => .integer (number * level)

end Datum

/-- The outline of a tree with the shown forms of the margins. -/
def Tree.outline? (tree : Tree) (indent : Datum) : Except Datum.Fault String :=
  if (indent.margin? 0).isSome then
    .ok (String.ofList (tree.outlined
      (fun level => ((indent.margin? level).getD .missing).shown.toList) 0))
  else
    .error .notText

end SentenceChart
