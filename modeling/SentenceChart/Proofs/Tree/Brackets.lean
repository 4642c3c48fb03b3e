import SentenceChart.Proofs.Tree.Nodes
import SentenceChart.Tree.Written

/-!
# Reading trees in brackets

A reader for the bracketed form of trees.  It gives the tree at the front of a text
and what follows it.  If labels and words have no spaces and no brackets, it finds
every tree in its bracketed form (`readTree?_bracketed`): after the label comes a
space and no bracket for a word, a space and a bracket for a child, and a bracket
if there is neither.
-/

namespace SentenceChart.Tree

/-- A character of labels and words. -/
def isNameChar (c : Char) : Bool :=
  c != ' ' && c != '(' && c != ')'

/-- A text without spaces and brackets; the empty text is one. -/
def IsName (text : String) : Prop :=
  ∀ c ∈ text.toList, isNameChar c = true

instance : DecidablePred IsName :=
  fun _ => decidable_of_iff _ List.all_eq_true

/-- The label or word at the front of a text. -/
def nameOf (text : List Char) : String :=
  String.ofList (text.takeWhile isNameChar)

/-- What follows the label or word at the front of a text. -/
def afterName (text : List Char) : List Char :=
  text.dropWhile isNameChar

/-- The word at the front of a text, which ends its node, and what follows. -/
def readWord? : List Char → Option (String × List Char)
  | ' ' :: written =>
      match afterName written with
      | ')' :: rest => some (nameOf written, rest)
      | _ => none
  | _ => none

mutual

/-- The tree at the front of a text, and what follows it. -/
def readTree? (text : List Char) : Option (Tree × List Char) :=
  match text with
  | '(' :: written =>
      match readWord? (afterName written) with
      | some (word, rest) => some (.leaf (nameOf written) word, rest)
      | none =>
          (readTrees? (afterName written)).map fun (children, rest) =>
            (.node (nameOf written) children none, rest)
  | _ => none
termination_by text.length
decreasing_by
  have atMost := (List.dropWhile_sublist (l := written) isNameChar).length_le
  exact Nat.lt_succ_of_le atMost

/-- The trees before a closing bracket, and what follows it.  What follows a tree
must be shorter than what it is read from, so that the reading ends. -/
def readTrees? (text : List Char) : Option (List Tree × List Char) :=
  match text with
  | ')' :: rest => some ([], rest)
  | ' ' :: written =>
      match readTree? written with
      | some (tree, more) =>
          if more.length < written.length then
            (readTrees? more).map fun (trees, rest) => (tree :: trees, rest)
          else
            none
      | none => none
  | _ => none
termination_by text.length

end

/-- The tree of a text. -/
def read? (text : String) : Option Tree :=
  match readTree? text.toList with
  | some (tree, []) => some tree
  | _ => none

section Names

variable {name : String} (isName : IsName name) {c : Char}
  (ends : isNameChar c = false) (rest : List Char)

include isName ends

theorem nameOf_append : nameOf (name.toList ++ c :: rest) = name := by
  have stops : ¬isNameChar c = true := by simp [ends]
  rw [nameOf, List.takeWhile_append_of_pos isName,
    List.takeWhile_cons_of_neg stops, List.append_nil, String.ofList_toList]

theorem afterName_append : afterName (name.toList ++ c :: rest) = c :: rest := by
  have stops : ¬isNameChar c = true := by simp [ends]
  rw [afterName, List.dropWhile_append_of_pos isName,
    List.dropWhile_cons_of_neg stops]

end Names

theorem readWord?_append {word : String} (isName : IsName word)
    (rest : List Char) :
    readWord? (' ' :: (word.toList ++ ')' :: rest)) = some (word, rest) := by
  have closes : isNameChar ')' = false := by decide
  simp only [readWord?, afterName_append isName closes,
    nameOf_append isName closes]

theorem readTree?_leaf {label word : String} (isLabel : IsName label)
    (isWord : IsName word) (rest : List Char) :
    readTree? ((leaf label word).bracketed ++ rest) =
      some (leaf label word, rest) := by
  have spaces : isNameChar ' ' = false := by decide
  have written : (leaf label word).bracketed ++ rest =
      '(' :: (label.toList ++ ' ' :: (word.toList ++ ')' :: rest)) := by
    simp [leaf, bracketed]
  rw [written, readTree?, afterName_append isLabel spaces,
    nameOf_append isLabel spaces, readWord?_append isWord]

/-- What stands in a node without a word begins with a bracket or a space, and is
no word. -/
theorem bracketedAll_append_cases (children : List Tree) (rest : List Char) :
    ∃ c more, bracketedAll children ++ ')' :: rest = c :: more ∧
      isNameChar c = false ∧ readWord? (c :: more) = none := by
  cases children with
  | nil => exact ⟨')', rest, rfl, by decide, rfl⟩
  | cons child siblings =>
      -- The bracket of the child stands where a word would end.
      obtain ⟨label, children, word⟩ := child
      cases word with
      | none => exact ⟨' ', _, rfl, by decide, rfl⟩
      | some word => exact ⟨' ', _, rfl, by decide, rfl⟩

theorem readTree?_inner {label : Symbol} {children : List Tree}
    {rest : List Char} (isLabel : IsName label)
    (read : readTrees? (bracketedAll children ++ ')' :: rest) =
      some (children, rest)) :
    readTree? ((node label children none).bracketed ++ rest) =
      some (node label children none, rest) := by
  obtain ⟨c, more, begins, ends, noWord⟩ :=
    bracketedAll_append_cases children rest
  have written : (node label children none).bracketed ++ rest =
      '(' :: (label.toList ++ (bracketedAll children ++ ')' :: rest)) := by
    simp [bracketed]
  rw [begins] at written read
  rw [written, readTree?, afterName_append isLabel ends,
    nameOf_append isLabel ends, noWord, read]
  rfl

theorem length_bracketed_pos (tree : Tree) : 0 < tree.bracketed.length := by
  obtain ⟨label, children, word⟩ := tree
  cases word with
  | none => simp [bracketed]
  | some word => simp [bracketed]

theorem readTrees?_bracketedAll {trees : List Tree}
    (each : ∀ tree ∈ trees, ∀ rest,
      readTree? (tree.bracketed ++ rest) = some (tree, rest))
    (rest : List Char) :
    readTrees? (bracketedAll trees ++ ')' :: rest) = some (trees, rest) := by
  induction trees with
  | nil => rw [bracketedAll, List.nil_append, readTrees?]
  | cons tree more ih =>
      obtain ⟨here, others⟩ := List.forall_mem_cons.mp each
      have shorter : (bracketedAll more ++ ')' :: rest).length <
          (tree.bracketed ++ (bracketedAll more ++ ')' :: rest)).length := by
        have positive := tree.length_bracketed_pos
        simp only [List.length_append]
        omega
      rw [bracketedAll, List.cons_append, List.cons_append, List.append_assoc,
        readTrees?, here]
      simp only [shorter, if_true, ih others, Option.map_some]

/-- The bracketed form of a tree is read as the tree, whatever follows it. -/
theorem readTree?_bracketed {tree : Tree}
    (ends : tree.WordsAtEnds IsName IsName) (rest : List Char) :
    readTree? (tree.bracketed ++ rest) = some (tree, rest) := by
  induction ends generalizing rest with
  | leaf isLabel isWord => exact readTree?_leaf isLabel isWord rest
  | inner isLabel _ ih =>
      exact readTree?_inner isLabel (readTrees?_bracketedAll ih rest)

theorem read?_toText {tree : Tree} (ends : tree.WordsAtEnds IsName IsName) :
    read? tree.toText = some tree := by
  have read := readTree?_bracketed ends []
  rw [List.append_nil] at read
  rw [read?, toText, String.toList_ofList, read]

/-- A tree can be read from its bracketed form, so no other tree has the same. -/
theorem toText_tells_tree {tree : Tree}
    (ends : tree.WordsAtEnds IsName IsName) :
    read? tree.toText = some tree ∧
      ∀ other : Tree, other.WordsAtEnds IsName IsName →
        other.toText = tree.toText → other = tree := by
  have read := read?_toText ends
  refine ⟨read, ?_⟩
  intro other otherEnds sameText
  have readOther := read?_toText otherEnds
  rw [sameText, read] at readOther
  exact (Option.some.inj readOther).symm

/-- A tree with nodes of all shapes, and with empty labels and words. -/
def oddTree : Tree :=
  .node ""
    [.leaf "" "", .unit "V" (.bare ""), .pair "S" (.bare "A") (.leaf "N" "dog")]
    none

/-- A leaf, a node with one child and a bare node are told apart without any
label. -/
theorem toText_tells_tree_odd :
    oddTree.WordsAtEnds IsName IsName ∧
      oddTree.toText = "( ( ) (V ()) (S (A) (N dog)))" ∧
      read? "( ( ) (V ()) (S (A) (N dog)))" = some oddTree := by
  have ends : oddTree.WordsAtEnds IsName IsName := by decide
  have text : oddTree.toText = "( ( ) (V ()) (S (A) (N dog)))" := by decide
  have read := (toText_tells_tree ends).1
  rw [text] at read
  exact ⟨ends, text, read⟩

end SentenceChart.Tree
