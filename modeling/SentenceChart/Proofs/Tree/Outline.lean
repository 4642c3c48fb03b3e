import Mathlib.Data.List.Basic
import Mathlib.Data.List.Forall2
import SentenceChart.Proofs.Text.Lines
import SentenceChart.Proofs.Tree.Nodes
import SentenceChart.Tree.Written

/-!
# Reading outlines

An outline has one line for each node.  If no label begins with the indentation,
the margin of a line tells the level of its node, and the first tabulator of a line
stands before the word of its node.  The levels tell the tree: from the last line
on, each node takes the trees after it that are one level deeper as its children
(`foldr_entries`).
-/

namespace SentenceChart.Tree

/-- A node of an outline, without what is below it. -/
structure Entry where
  /-- The number of nodes above it. -/
  level : Nat
  /-- Its label. -/
  label : Symbol
  /-- Its word. -/
  word? : Option String

mutual

/-- The nodes of a tree at a level, in the order of an outline. -/
def entries (level : Nat) : Tree → List Entry
  | .node label children word =>
      ⟨level, label, word⟩ :: entriesOf (level + 1) children

def entriesOf (level : Nat) : List Tree → List Entry
  | [] => []
  | tree :: more => tree.entries level ++ entriesOf level more

end

/-- The part of a line after its margin. -/
def Entry.text (entry : Entry) : List Char :=
  entry.label.toList ++
    match entry.word? with
    | some word => '\t' :: word.toList
    | none => []

/-- The line of a node without its end. -/
def Entry.line (indent : List Char) (entry : Entry) : List Char :=
  margin indent entry.level ++ entry.text

/-- What follows the first tabulator of a line. -/
def wordOf? (line : List Char) : Option String :=
  match line.dropWhile (· != '\t') with
  | [] => none
  | _ :: word => some (String.ofList word)

/-- How many times a line has the indentation at its front. -/
def levelOf (indent line : List Char) : Nat :=
  if indent ≠ [] ∧ indent <+: line then
    levelOf indent (line.drop indent.length) + 1
  else
    0
termination_by line.length
decreasing_by
  rename_i found
  have positive := List.length_pos_iff.mpr found.1
  have atMost := found.2.length_le
  rw [List.length_drop]
  omega

/-- The node of a line. -/
def Entry.read (indent line : List Char) : Entry :=
  let level := levelOf indent line
  let text := line.drop (margin indent level).length
  { level
    label := String.ofList (text.takeWhile (· != '\t'))
    word? := wordOf? line }

/-- A node before trees at their levels takes those at the front that are one level
deeper as its children. -/
def graft (entry : Entry) (planted : List (Nat × Tree)) : List (Nat × Tree) :=
  let isChild (tree : Nat × Tree) : Bool := tree.1 == entry.level + 1
  (entry.level,
    .node entry.label ((planted.takeWhile isChild).map Prod.snd) entry.word?) ::
    planted.dropWhile isChild

/-- The tree of an outline. -/
def readOutline? (indent text : String) : Option Tree :=
  let lines := Text.endedLines text.toList
  match (lines.map (Entry.read indent.toList)).foldr graft [] with
  | [(0, tree)] => some tree
  | _ => none

/-- A text that can be used for the margins of an outline. -/
structure IsIndent (indent : List Char) : Prop where
  ne_nil : indent ≠ []
  no_tab : '\t' ∉ indent
  no_feed : '\n' ∉ indent

/-- A label that cannot be confused with the margin or the word of a line, or with
another line. -/
structure IsOutlineLabel (indent : List Char) (label : String) : Prop where
  not_indented : ¬indent <+: label.toList
  no_tab : '\t' ∉ label.toList
  no_feed : '\n' ∉ label.toList

/-- A word on one line. -/
def IsOutlineWord (word : String) : Prop :=
  '\n' ∉ word.toList

theorem isIndent_iff {indent : List Char} :
    indent ≠ [] ∧ '\t' ∉ indent ∧ '\n' ∉ indent ↔ IsIndent indent :=
  ⟨fun ⟨ne_nil, no_tab, no_feed⟩ => ⟨ne_nil, no_tab, no_feed⟩,
    fun isIndent => ⟨isIndent.ne_nil, isIndent.no_tab, isIndent.no_feed⟩⟩

theorem isOutlineLabel_iff {indent : List Char} {label : String} :
    ¬indent <+: label.toList ∧ '\t' ∉ label.toList ∧ '\n' ∉ label.toList ↔
      IsOutlineLabel indent label :=
  ⟨fun ⟨not_indented, no_tab, no_feed⟩ => ⟨not_indented, no_tab, no_feed⟩,
    fun isLabel => ⟨isLabel.not_indented, isLabel.no_tab, isLabel.no_feed⟩⟩

instance (indent : List Char) : Decidable (IsIndent indent) :=
  decidable_of_iff _ isIndent_iff

instance (indent : List Char) : DecidablePred (IsOutlineLabel indent) :=
  fun _ => decidable_of_iff _ isOutlineLabel_iff

instance : DecidablePred IsOutlineWord :=
  fun word => inferInstanceAs (Decidable ('\n' ∉ word.toList))

section Lines

variable {indent : List Char} (isIndent : IsIndent indent)

theorem margin_succ (indent : List Char) (level : Nat) :
    margin indent (level + 1) = indent ++ margin indent level :=
  rfl

theorem mem_of_mem_margin {level : Nat} {c : Char}
    (member : c ∈ margin indent level) : c ∈ indent := by
  rw [margin, List.mem_flatten] at member
  obtain ⟨part, isPart, inPart⟩ := member
  rwa [List.eq_of_mem_replicate isPart] at inPart

/-- The level and what follows the margin are told by the line. -/
theorem levelOf_margin_append {text : List Char} (nonempty : indent ≠ [])
    (notIndented : ¬indent <+: text) (level : Nat) :
    levelOf indent (margin indent level ++ text) = level := by
  induction level with
  | zero =>
      have stops : ¬(indent ≠ [] ∧ indent <+: text) :=
        fun found => notIndented found.2
      rw [levelOf, margin, List.replicate_zero, List.flatten_nil,
        List.nil_append, if_neg stops]
  | succ level ih =>
      have goesOn : indent ≠ [] ∧
          indent <+: margin indent (level + 1) ++ text := by
        rw [margin_succ, List.append_assoc]
        exact ⟨nonempty, List.prefix_append _ _⟩
      rw [levelOf, if_pos goesOn, margin_succ, List.append_assoc,
        List.drop_left, ih]

theorem wordOf?_append {front : List Char} (noTab : '\t' ∉ front)
    (rest : List Char) : wordOf? (front ++ rest) = wordOf? rest := by
  have skipped : ∀ c ∈ front, (c != '\t') = true := by
    intro c member
    exact bne_iff_ne.mpr (ne_of_mem_of_not_mem member noTab)
  rw [wordOf?, List.dropWhile_append_of_pos skipped, wordOf?]

include isIndent

variable {entry : Entry} (isLabel : IsOutlineLabel indent entry.label)

include isLabel

theorem Entry.not_indented_text : ¬indent <+: entry.text := by
  intro indented
  rw [text] at indented
  cases found : entry.word? with
  | none =>
      simp only [found, List.append_nil] at indented
      exact isLabel.not_indented indented
  | some word =>
      simp only [found] at indented
      have withTab : entry.label.toList ++ ['\t'] <+:
          entry.label.toList ++ '\t' :: word.toList := ⟨word.toList, by simp⟩
      -- The indentation ends before the tabulator, which it does not have.
      rcases List.prefix_or_prefix_of_prefix indented withTab with
        inside | beyond
      · rcases List.prefix_concat_iff.mp inside with whole | inLabel
        · exact isIndent.no_tab (by simp [whole])
        · exact isLabel.not_indented inLabel
      · exact isIndent.no_tab (beyond.subset (by simp))

theorem Entry.wordOf?_line : wordOf? (entry.line indent) = entry.word? := by
  have marginNoTab : '\t' ∉ margin indent entry.level :=
    fun member => isIndent.no_tab (mem_of_mem_margin member)
  rw [line, text, wordOf?_append marginNoTab, wordOf?_append isLabel.no_tab]
  cases entry.word? with
  | none => rfl
  | some word => simp [wordOf?]

theorem Entry.read_line : read indent (entry.line indent) = entry := by
  have level : levelOf indent (entry.line indent) = entry.level :=
    levelOf_margin_append isIndent.ne_nil
      (entry.not_indented_text isIndent isLabel) entry.level
  have word := entry.wordOf?_line isIndent isLabel
  have label : entry.text.takeWhile (· != '\t') = entry.label.toList := by
    have kept : ∀ c ∈ entry.label.toList, (c != '\t') = true := by
      intro c member
      exact bne_iff_ne.mpr (ne_of_mem_of_not_mem member isLabel.no_tab)
    rw [text, List.takeWhile_append_of_pos kept]
    cases entry.word? <;> simp
  rw [read, level, word, line, List.drop_left, label, String.ofList_toList]

theorem Entry.no_feed_line
    (isWord : ∀ word ∈ entry.word?, IsOutlineWord word) :
    '\n' ∉ entry.line indent := by
  rw [line, text, List.mem_append, List.mem_append]
  intro member
  rcases member with inMargin | inLabel | inWord
  · exact isIndent.no_feed (mem_of_mem_margin inMargin)
  · exact isLabel.no_feed inLabel
  · cases found : entry.word? with
    | none => simp [found] at inWord
    | some word =>
        have noFeed := isWord word (by simp [found])
        simp only [found, List.mem_cons] at inWord
        rcases inWord with isTab | inWord
        · cases isTab
        · exact noFeed inWord

end Lines

mutual

theorem map_entries (tree : Tree) (level : Nat) :
    (tree.entries level).map (fun entry => (entry.label, entry.word?)) =
      tree.subtrees.map fun node => (node.label, node.word?) := by
  cases tree with
  | node label children word =>
      have below := map_entriesOf children (level + 1)
      rw [entries, subtrees, List.map_cons, List.map_cons, below]
      rfl

theorem map_entriesOf (trees : List Tree) (level : Nat) :
    (entriesOf level trees).map (fun entry => (entry.label, entry.word?)) =
      (subtreesOf trees).map fun node => (node.label, node.word?) := by
  cases trees with
  | nil => rfl
  | cons tree more =>
      have here := map_entries tree level
      have others := map_entriesOf more level
      rw [entriesOf, subtreesOf, List.map_append, List.map_append, here, others]

end

private theorem takeWhile_level (trees : List Tree) {level : Nat}
    {planted : List (Nat × Tree)}
    (shallow : ∀ next ∈ planted.head?, next.1 < level) :
    (trees.map (Prod.mk level) ++ planted).takeWhile (·.1 == level) =
        trees.map (Prod.mk level) ∧
      (trees.map (Prod.mk level) ++ planted).dropWhile (·.1 == level) =
        planted := by
  have taken : ∀ tree ∈ trees.map (Prod.mk level), (tree.1 == level) = true := by
    intro tree member
    obtain ⟨_, _, rfl⟩ := List.mem_map.mp member
    exact beq_self_eq_true level
  rw [List.takeWhile_append_of_pos taken, List.dropWhile_append_of_pos taken]
  cases planted with
  | nil => simp
  | cons next rest =>
      have different : (next.1 == level) = false :=
        beq_false_of_ne (Nat.ne_of_lt (shallow next rfl))
      rw [List.takeWhile_cons_of_neg (by simp [different]),
        List.dropWhile_cons_of_neg (by simp [different]), List.append_nil]
      exact ⟨rfl, rfl⟩

mutual

/-- The nodes of a tree make the tree again, before trees that are not deeper. -/
theorem foldr_entries (tree : Tree) {level : Nat}
    {planted : List (Nat × Tree)}
    (shallow : ∀ next ∈ planted.head?, next.1 ≤ level) :
    (tree.entries level).foldr graft planted = (level, tree) :: planted := by
  cases tree with
  | node label children word =>
      -- What is planted already is no child, so the children are those below.
      have notDeeper : ∀ next ∈ planted.head?, next.1 < level + 1 :=
        fun next member => Nat.lt_succ_of_le (shallow next member)
      have below := foldr_entriesOf children
        fun next member => Nat.le_of_lt (notDeeper next member)
      obtain ⟨taken, left⟩ := takeWhile_level children notDeeper
      rw [entries, List.foldr_cons, below, graft]
      simp only [taken, left, List.map_map]
      simp [Function.comp_def]

theorem foldr_entriesOf (trees : List Tree) {level : Nat}
    {planted : List (Nat × Tree)}
    (shallow : ∀ next ∈ planted.head?, next.1 ≤ level) :
    (entriesOf level trees).foldr graft planted =
      trees.map (Prod.mk level) ++ planted := by
  cases trees with
  | nil => rfl
  | cons tree more =>
      have others := foldr_entriesOf more shallow
      have othersShallow : ∀ next ∈
          (more.map (Prod.mk level) ++ planted).head?, next.1 ≤ level := by
        intro next member
        cases more with
        | nil => exact shallow next member
        | cons sibling more =>
            cases member
            exact Nat.le_refl level
      rw [entriesOf, List.foldr_append, others,
        foldr_entries tree othersShallow]
      rfl

end

namespace WordsAtEnds

private theorem outlinedAll_eq {margins : Nat → List Char} {level : Nat}
    {trees : List Tree} {written : Entry → List Char}
    (each : ∀ tree ∈ trees,
      tree.outlined margins level = (tree.entries level).flatMap written) :
    outlinedAll margins level trees =
      (entriesOf level trees).flatMap written := by
  induction trees with
  | nil => rfl
  | cons tree more ih =>
      obtain ⟨here, others⟩ := List.forall_mem_cons.mp each
      rw [outlinedAll, entriesOf, List.flatMap_append, here, ih others]

variable {indent : List Char} {tree : Tree}

section AnyTexts

variable {isLabel isWord : String → Prop}
  (ends : tree.WordsAtEnds isLabel isWord)

include ends

theorem outlined_eq (level : Nat) :
    tree.outlined (margin indent) level =
      (tree.entries level).flatMap (·.line indent ++ ['\n']) := by
  induction ends generalizing level with
  | leaf =>
      simp [Tree.leaf, outlined, entries, entriesOf, Entry.line, Entry.text]
  | inner _ _ ih =>
      have below := outlinedAll_eq fun child member => ih child member (level + 1)
      rw [outlined, entries, List.flatMap_cons, below]
      simp [Entry.line, Entry.text]

theorem filterMap_entries (level : Nat) :
    (tree.entries level).filterMap Entry.word? = tree.leaves := by
  have sameWords := congrArg (List.filterMap Prod.snd) (map_entries tree level)
  rw [List.filterMap_map, List.filterMap_map] at sameWords
  rw [ends.leaves_eq]
  exact sameWords

theorem forall_mem_entries {level : Nat} :
    ∀ entry ∈ tree.entries level, isLabel entry.label ∧
      ∀ word ∈ entry.word?, isWord word := by
  intro entry member
  have inList : (entry.label, entry.word?) ∈ (tree.entries level).map
      fun entry => (entry.label, entry.word?) :=
    List.mem_map.mpr ⟨entry, member, rfl⟩
  rw [map_entries] at inList
  obtain ⟨node, nodeMember, same⟩ := List.mem_map.mp inList
  obtain ⟨sameLabel, sameWord⟩ := Prod.mk.inj same
  obtain ⟨suited, wordSuited⟩ := wordsAtEnds_iff.mp ends node nodeMember
  rw [← sameLabel, ← sameWord]
  exact ⟨suited, fun word found => (wordSuited word found).1⟩

end AnyTexts

end WordsAtEnds

/-- A line is the one of a node at some level. -/
def IsLineOf (indent line : List Char) (node : Tree) : Prop :=
  ∃ level, line = Entry.line indent ⟨level, node.label, node.word?⟩

theorem forall₂_isLineOf (indent : List Char) (tree : Tree) (level : Nat) :
    List.Forall₂ (IsLineOf indent)
      ((tree.entries level).map (·.line indent)) tree.subtrees := by
  have same := List.forall₂_eq_eq_eq.symm ▸ map_entries tree level
  rw [List.forall₂_map_left_iff, List.forall₂_map_right_iff] at same
  rw [List.forall₂_map_left_iff]
  apply same.imp
  intro entry node sameTexts
  obtain ⟨sameLabel, sameWord⟩ := Prod.mk.inj sameTexts
  exact ⟨entry.level, by rw [← sameLabel, ← sameWord]⟩

section Reading

variable {indent : String} (isIndent : IsIndent indent.toList) {tree : Tree}
  (ends : tree.WordsAtEnds (IsOutlineLabel indent.toList) IsOutlineWord)

include ends

theorem toList_outline :
    (tree.outline indent).toList =
      ((tree.entries 0).map (·.line indent.toList)).flatMap
        (· ++ ['\n']) := by
  rw [outline, String.toList_ofList, ends.outlined_eq, List.flatMap_map]

include isIndent

theorem no_feed_of_mem_lines :
    ∀ line ∈ (tree.entries 0).map (·.line indent.toList), '\n' ∉ line := by
  intro line member
  obtain ⟨entry, entryMember, rfl⟩ := List.mem_map.mp member
  obtain ⟨isLabel, isWord⟩ := ends.forall_mem_entries entry entryMember
  exact entry.no_feed_line isIndent isLabel isWord

theorem endedLines_outline :
    Text.endedLines (tree.outline indent).toList =
      (tree.entries 0).map (·.line indent.toList) := by
  have noFeed := no_feed_of_mem_lines isIndent ends
  rw [toList_outline ends, Text.endedLines_flatMap noFeed]

theorem filterMap_wordOf?_lines :
    ((tree.entries 0).map (·.line indent.toList)).filterMap wordOf? =
      tree.leaves := by
  rw [List.filterMap_map, ← ends.filterMap_entries 0]
  apply List.filterMap_congr
  intro entry member
  exact entry.wordOf?_line isIndent (ends.forall_mem_entries entry member).1

theorem readOutline?_outline :
    readOutline? indent (tree.outline indent) = some tree := by
  have read : ((tree.entries 0).map (·.line indent.toList)).map
      (Entry.read indent.toList) = (tree.entries 0).map id := by
    rw [List.map_map]
    apply List.map_congr_left
    intro entry member
    exact entry.read_line isIndent (ends.forall_mem_entries entry member).1
  have planted : (tree.entries 0).foldr graft [] = [(0, tree)] :=
    foldr_entries tree (by simp)
  simp only [readOutline?, endedLines_outline isIndent ends, read, List.map_id,
    planted]

end Reading

/-- An outline has one line for each node, in the order of the subtrees, and the
words after the first tabulators of its lines are the leaves.  The tree can be read
from it, so no other tree has the same outline. -/
theorem outline_tells_tree {indent : String}
    (isIndent : IsIndent indent.toList) {tree : Tree}
    (ends : tree.WordsAtEnds (IsOutlineLabel indent.toList) IsOutlineWord) :
    let lines := Text.endedLines (tree.outline indent).toList
    ((tree.outline indent).toList = lines.flatMap (· ++ ['\n']) ∧
        (∀ line ∈ lines, '\n' ∉ line) ∧
        List.Forall₂ (IsLineOf indent.toList) lines tree.subtrees) ∧
      lines.filterMap wordOf? = tree.leaves ∧
      readOutline? indent (tree.outline indent) = some tree ∧
      ∀ other : Tree,
        other.WordsAtEnds (IsOutlineLabel indent.toList) IsOutlineWord →
        other.outline indent = tree.outline indent → other = tree := by
  intro lines
  have linesEq : lines = (tree.entries 0).map (·.line indent.toList) :=
    endedLines_outline isIndent ends
  have read := readOutline?_outline isIndent ends
  rw [linesEq]
  refine ⟨⟨?_, ?_, ?_⟩, ?_, read, ?_⟩
  · exact toList_outline ends
  · exact no_feed_of_mem_lines isIndent ends
  · exact forall₂_isLineOf indent.toList tree 0
  · exact filterMap_wordOf?_lines isIndent ends
  · intro other otherEnds sameOutline
    have readOther := readOutline?_outline isIndent otherEnds
    rw [sameOutline, read] at readOther
    exact (Option.some.inj readOther).symm

/-- A tree whose labels are parts of an arrow. -/
def arrowTree : Tree :=
  .node "S" [.leaf "-" "a\tb", .unit "" (.bare ">")] none

/-- The empty label and the labels that are parts of the indentation are told
from it, and the first tabulator from the one in a word. -/
theorem outline_tells_tree_arrows :
    IsIndent "->".toList ∧
      arrowTree.WordsAtEnds (IsOutlineLabel "->".toList) IsOutlineWord ∧
      arrowTree.outline "->" = "S\n->-\ta\tb\n->\n->->>\n" ∧
      readOutline? "->" "S\n->-\ta\tb\n->\n->->>\n" = some arrowTree ∧
      (Text.endedLines
        "S\n->-\ta\tb\n->\n->->>\n".toList).filterMap wordOf? = ["a\tb"] := by
  have isIndent : IsIndent "->".toList := by decide
  have ends : arrowTree.WordsAtEnds
      (IsOutlineLabel "->".toList) IsOutlineWord := by
    decide
  have outline : arrowTree.outline "->" = "S\n->-\ta\tb\n->\n->->>\n" := by
    decide
  obtain ⟨_, words, read, _⟩ := outline_tells_tree isIndent ends
  rw [outline] at words read
  exact ⟨isIndent, ends, outline, read, words⟩

end SentenceChart.Tree
