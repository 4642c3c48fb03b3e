import SentenceChart.Json
import SentenceChart.Tree.Basic

/-!
# Texts of trees

A tree is written between brackets on one line, or with one line for each
node and a deeper indentation for its children, or as a JSON record.  In the
first two forms a word hides the children of its node.
-/

namespace SentenceChart.Tree

mutual

/-- The label with the word or the children after it, between brackets. -/
def bracketed : Tree → List Char
  | .node label _ (some word) =>
      '(' :: label.toList ++ ' ' :: word.toList ++ [')']
  | .node label children none =>
      '(' :: label.toList ++ bracketedAll children ++ [')']

/-- Several trees with a space before each of them. -/
def bracketedAll : List Tree → List Char
  | [] => []
  | tree :: more => ' ' :: tree.bracketed ++ bracketedAll more

end

/-- The margin of a level: the indentation once for each level above it. -/
def margin (indent : List Char) (level : Nat) : List Char :=
  (List.replicate level indent).flatten

mutual

/-- One line for each node after the margin of its level, a tabulator between a
label and its word. -/
def outlined (margins : Nat → List Char) (level : Nat) : Tree → List Char
  | .node label _ (some word) =>
      margins level ++ label.toList ++ '\t' :: word.toList ++ ['\n']
  | .node label children none =>
      margins level ++ label.toList ++ '\n' ::
        outlinedAll margins (level + 1) children

def outlinedAll (margins : Nat → List Char) (level : Nat) :
    List Tree → List Char
  | [] => []
  | tree :: more =>
      outlined margins level tree ++ outlinedAll margins level more

end

mutual

/-- The record of a tree; the word comes last and only if there is one. -/
def toJson : Tree → Json
  | .node label children word =>
      .record <|
        [("label", .text label), ("children", .list (toJsonAll children))] ++
          (match word with
          | some word => [("word", .text word)]
          | none => [])

def toJsonAll : List Tree → List Json
  | [] => []
  | tree :: more => tree.toJson :: toJsonAll more

end

def toText (tree : Tree) : String :=
  String.ofList tree.bracketed

def outline (tree : Tree) (indent : String) : String :=
  String.ofList (tree.outlined (margin indent.toList) 0)

/-- The indentation of an outline in reports. -/
def reportIndent : String := "  "

/-- The bracketed form with the name of its kind. -/
def summary (tree : Tree) : String :=
  "ParseNode(" ++ tree.toText ++ ")"

end SentenceChart.Tree
