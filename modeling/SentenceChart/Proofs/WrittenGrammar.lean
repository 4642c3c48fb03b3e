import SentenceChart.Grammar.Written
import SentenceChart.Proofs.Grouping
import SentenceChart.Proofs.Text.Lines

/-!
# Reading grammars

A line of a written grammar is a row of words with a space between them: the head,
an arrow, and the symbols of its bodies with a bar between two bodies
(`writtenLine_eq`).  An arrow can be a symbol, too, since only the second word of a
line is taken for one.  If no symbol has a space or a line feed and no body has the
bar as a symbol, the rules can be read from the text.
-/

namespace SentenceChart

namespace Rule

/-- The rules of a line; a line without an arrow has none. -/
def readLine (line : List Char) : List Rule :=
  match (line.splitOn ' ').map String.ofList with
  | head :: "->" :: bodies => (bodies.splitOn "|").map (Rule.mk head)
  | _ => []

/-- The rules of all lines. -/
def readAll (text : String) : List Rule :=
  (Text.endedLines text.toList).flatMap readLine

/-- A symbol that is one word of a line; the empty text is one. -/
def IsInline (symbol : Symbol) : Prop :=
  ' ' ∉ symbol.toList ∧ '\n' ∉ symbol.toList

/-- A rule that can be told from others on its line. -/
structure IsLegible (rule : Rule) : Prop where
  head_isInline : IsInline rule.head
  isInline_of_mem : ∀ symbol ∈ rule.body, IsInline symbol
  no_bar : "|" ∉ rule.body

instance : DecidablePred IsInline :=
  fun _ => inferInstanceAs (Decidable (_ ∧ _))

theorem isLegible_iff {rule : Rule} :
    IsInline rule.head ∧ (∀ symbol ∈ rule.body, IsInline symbol) ∧
        "|" ∉ rule.body ↔
      rule.IsLegible :=
  ⟨fun ⟨head, body, no_bar⟩ => ⟨head, body, no_bar⟩,
    fun legible =>
      ⟨legible.head_isInline, legible.isInline_of_mem, legible.no_bar⟩⟩

instance : DecidablePred IsLegible :=
  fun _ => decidable_of_iff _ isLegible_iff

private theorem mem_intercalate {α : Type} {separator member : α}
    {parts : List (List α)}
    (found : member ∈ [separator].intercalate parts) :
    member = separator ∨ ∃ part ∈ parts, member ∈ part := by
  induction parts with
  | nil => simp at found
  | cons part more ih =>
      cases more with
      | nil =>
          rw [List.intercalate_singleton] at found
          exact .inr ⟨part, List.mem_cons_self, found⟩
      | cons next more =>
          rw [List.intercalate_cons_cons, List.mem_append, List.mem_append,
            List.mem_singleton] at found
          rcases found with (here | isSeparator) | later
          · exact .inr ⟨part, List.mem_cons_self, here⟩
          · exact .inl isSeparator
          · rcases ih later with isSeparator | ⟨other, otherMember, inOther⟩
            · exact .inl isSeparator
            · exact .inr ⟨other, List.mem_cons_of_mem _ otherMember, inOther⟩

private theorem intercalate_ne_nil {α : Type} {separator : List α}
    {part : List α} (nonempty : part ≠ []) (more : List (List α)) :
    separator.intercalate (part :: more) ≠ [] := by
  cases more with
  | nil => simpa using nonempty
  | cons next more => simp [nonempty]

theorem writtenBody_cons (symbol : Symbol) {more : List Symbol}
    (nonempty : more ≠ []) :
    writtenBody (symbol :: more) =
      symbol.toList ++ ' ' :: writtenBody more := by
  rw [writtenBody, List.map_cons,
    List.intercalate_cons_of_ne_nil (by simpa using nonempty)]
  simp [writtenBody]

theorem writtenBody_append {front rest : List Symbol} (frontNonempty : front ≠ [])
    (restNonempty : rest ≠ []) :
    writtenBody (front ++ rest) =
      writtenBody front ++ ' ' :: writtenBody rest := by
  induction front with
  | nil => exact absurd rfl frontNonempty
  | cons symbol front ih =>
      by_cases last : front = []
      · have single : writtenBody [symbol] = symbol.toList := by
          simp [writtenBody]
        rw [last, List.singleton_append, writtenBody_cons symbol restNonempty,
          single]
      · rw [List.cons_append, writtenBody_cons symbol (by simp [last]),
          ih last, writtenBody_cons symbol last, List.append_assoc,
          List.cons_append]

theorem intercalate_writtenBody {bodies : List (List Symbol)}
    (nonempty : ∀ body ∈ bodies, body ≠ []) :
    " | ".toList.intercalate (bodies.map writtenBody) =
      writtenBody (["|"].intercalate bodies) := by
  induction bodies with
  | nil => rfl
  | cons body more ih =>
      obtain ⟨bodyNonempty, moreNonempty⟩ := List.forall_mem_cons.mp nonempty
      cases more with
      | nil => simp
      | cons next more =>
          have rest := ih moreNonempty
          have nextNonempty := moreNonempty next List.mem_cons_self
          have restNonempty : ["|"].intercalate (next :: more) ≠ [] :=
            intercalate_ne_nil nextNonempty more
          rw [List.map_cons, List.map_cons, List.intercalate_cons_cons,
            ← List.map_cons, rest, List.intercalate_cons_cons,
            List.append_assoc body, writtenBody_append bodyNonempty (by simp),
            List.singleton_append, writtenBody_cons "|" restNonempty]
          simp

theorem splitOn_writtenBody {words : List Symbol} (nonempty : words ≠ [])
    (isInline : ∀ word ∈ words, IsInline word) :
    ((writtenBody words).splitOn ' ').map String.ofList = words := by
  have noSpace : ∀ word ∈ words.map String.toList, ' ' ∉ word := by
    intro chars member
    obtain ⟨word, wordMember, rfl⟩ := List.mem_map.mp member
    exact (isInline word wordMember).1
  rw [writtenBody, List.splitOn_intercalate ' ' noSpace (by simpa using nonempty),
    List.map_map]
  have unchanged : words.map (String.ofList ∘ String.toList) = words.map id :=
    List.map_congr_left fun word _ => String.ofList_toList
  rw [unchanged, List.map_id]

theorem no_feed_writtenBody {words : List Symbol}
    (isInline : ∀ word ∈ words, IsInline word) : '\n' ∉ writtenBody words := by
  intro found
  rcases mem_intercalate found with isSpace | ⟨chars, member, inWord⟩
  · cases isSpace
  · obtain ⟨word, wordMember, rfl⟩ := List.mem_map.mp member
    exact (isInline word wordMember).2 inWord

/-- The words of the line of some rules with one head. -/
def lineWords (head : Symbol) (bodies : List (List Symbol)) : List Symbol :=
  head :: "->" :: ["|"].intercalate bodies

section Line

variable {head : Symbol} {bodies : List (List Symbol)}

theorem writtenBody_lineWords {body : List Symbol}
    (nonempty : ∀ other ∈ body :: bodies, other ≠ []) :
    writtenBody (lineWords head (body :: bodies)) =
      head.toList ++ " -> ".toList ++
        " | ".toList.intercalate ((body :: bodies).map writtenBody) := by
  have bodyNonempty := nonempty body List.mem_cons_self
  rw [lineWords, writtenBody_cons head (List.cons_ne_nil _ _),
    writtenBody_cons "->" (intercalate_ne_nil bodyNonempty bodies),
    intercalate_writtenBody nonempty]
  simp

variable (legible : ∀ body ∈ bodies, IsLegible ⟨head, body⟩)

include legible

theorem isInline_of_mem_lineWords (nonempty : bodies ≠ []) :
    ∀ word ∈ lineWords head bodies, IsInline word := by
  obtain ⟨body, bodyMember⟩ := List.exists_mem_of_ne_nil bodies nonempty
  have headInline : IsInline head := (legible body bodyMember).head_isInline
  rw [lineWords, List.forall_mem_cons, List.forall_mem_cons]
  refine ⟨headInline, by decide, ?_⟩
  intro word member
  rcases mem_intercalate member with isBar | ⟨other, otherMember, inBody⟩
  · rw [isBar]
    decide
  · exact (legible other otherMember).isInline_of_mem word inBody

theorem readLine_lineWords (nonempty : bodies ≠ []) :
    readLine (writtenBody (lineWords head bodies)) =
      bodies.map (Rule.mk head) := by
  have isInline := isInline_of_mem_lineWords legible nonempty
  have someWord : lineWords head bodies ≠ [] := List.cons_ne_nil _ _
  have words := splitOn_writtenBody someWord isInline
  have noBar : ∀ body ∈ bodies, "|" ∉ body :=
    fun body member => (legible body member).no_bar
  rw [readLine, words]
  simp only [lineWords, List.splitOn_intercalate "|" noBar nonempty]

end Line

end Rule

namespace Grammar

variable {grammar : Grammar}

theorem body_ne_nil_of_mem {rule : Rule} (member : rule ∈ grammar.rules) :
    rule.body ≠ [] := by
  intro empty
  have normal := grammar.isNearNormal_of_mem rule member
  rw [Rule.isNearNormal, empty] at normal
  cases normal

theorem bodiesOf_ne_nil {head : Symbol}
    (nonterminal : head ∈ grammar.nonterminals) :
    grammar.bodiesOf head ≠ [] := by
  obtain ⟨⟨_, body⟩, member, rfl⟩ := mem_nonterminals_iff.mp nonterminal
  exact List.ne_nil_of_mem (mem_bodiesOf_iff.mpr member)

theorem rules_eq_flatMap (grammar : Grammar) :
    grammar.rules = grammar.nonterminals.flatMap fun head =>
      (grammar.bodiesOf head).map (Rule.mk head) := by
  have groups := Rule.grouped_eq_flatMap grammar.rules
  rw [grammar.grouped_rules] at groups
  rw [groups]
  apply List.flatMap_congr
  intro head _
  have sameRules : (grammar.rules.filter (·.head == head)).map
      (Rule.mk head ∘ Rule.body) =
        (grammar.rules.filter (·.head == head)).map id := by
    apply List.map_congr_left
    intro rule member
    have sameHead : rule.head = head := by
      simpa using (List.mem_filter.mp member).2
    rw [Function.comp, ← sameHead]
    rfl
  rw [bodiesOf, List.map_map, sameRules, List.map_id]

theorem writtenLine_eq {head : Symbol}
    (nonterminal : head ∈ grammar.nonterminals) :
    grammar.writtenLine head =
      Rule.writtenBody (Rule.lineWords head (grammar.bodiesOf head)) ++
        ['\n'] := by
  have nonempty : ∀ body ∈ grammar.bodiesOf head, body ≠ [] :=
    fun body member => body_ne_nil_of_mem (mem_bodiesOf_iff.mp member)
  rw [writtenLine, writtenBodies]
  cases bodies : grammar.bodiesOf head with
  | nil => exact absurd bodies (bodiesOf_ne_nil nonterminal)
  | cons body more =>
      rw [bodies] at nonempty
      rw [Rule.writtenBody_lineWords nonempty]

section Legible

variable (legible : ∀ rule ∈ grammar.rules, rule.IsLegible)

include legible

theorem isLegible_of_mem_bodiesOf (head : Symbol) :
    ∀ body ∈ grammar.bodiesOf head, Rule.IsLegible ⟨head, body⟩ :=
  fun _ member => legible _ (mem_bodiesOf_iff.mp member)

theorem endedLines_toText :
    Text.endedLines grammar.toText.toList =
      grammar.nonterminals.map fun head =>
        Rule.writtenBody (Rule.lineWords head (grammar.bodiesOf head)) := by
  have asLines : grammar.toText.toList =
      (grammar.nonterminals.map fun head =>
        Rule.writtenBody (Rule.lineWords head (grammar.bodiesOf head))).flatMap
          (· ++ ['\n']) := by
    rw [toText, String.toList_ofList, written, List.flatMap_map]
    exact List.flatMap_congr fun _ => writtenLine_eq
  rw [asLines]
  apply Text.endedLines_flatMap
  intro line member
  obtain ⟨head, nonterminal, rfl⟩ := List.mem_map.mp member
  apply Rule.no_feed_writtenBody
  exact Rule.isInline_of_mem_lineWords
    (isLegible_of_mem_bodiesOf legible head) (bodiesOf_ne_nil nonterminal)

theorem readAll_toText : Rule.readAll grammar.toText = grammar.rules := by
  rw [Rule.readAll, endedLines_toText legible, List.flatMap_map,
    rules_eq_flatMap]
  apply List.flatMap_congr
  intro head nonterminal
  exact Rule.readLine_lineWords (isLegible_of_mem_bodiesOf legible head)
    (bodiesOf_ne_nil nonterminal)

/-- The rules of a grammar can be read from its text, in their order and with those
that are repeated, so grammars with the same text have the same rules. -/
theorem toText_tells_rules :
    Rule.readAll grammar.toText = grammar.rules ∧
      ∀ other : Grammar, (∀ rule ∈ other.rules, rule.IsLegible) →
        other.toText = grammar.toText → other.rules = grammar.rules := by
  have read := readAll_toText legible
  refine ⟨read, ?_⟩
  intro other otherLegible sameText
  have readOther := readAll_toText otherLegible
  rw [sameText, read] at readOther
  exact readOther.symm

end Legible

/-- Rules whose symbols look like the arrow and the bar, and an empty symbol. -/
def arrowRules : List Rule :=
  [⟨"->", ["a|b"]⟩, ⟨"|", ["->"]⟩, ⟨"->", ["->", "->"]⟩, ⟨"->", ["a|b"]⟩,
    ⟨"|", [""]⟩]

/-- The grammar of these rules with the arrow as its start symbol. -/
def arrows : Grammar where
  start := "->"
  rules := Rule.grouped arrowRules
  grouped_rules := by decide
  start_mem := by decide
  isNearNormal_of_mem := by decide

/-- The grammar of these rules with the bar as its start symbol. -/
def bars : Grammar where
  start := "|"
  rules := Rule.grouped arrowRules
  grouped_rules := by decide
  start_mem := by decide
  isNearNormal_of_mem := by decide

/-- The second word of a line is its arrow, and a bar is never its first word. -/
theorem toText_tells_rules_arrows :
    (∀ rule ∈ arrows.rules, rule.IsLegible) ∧
      (∀ rule ∈ bars.rules, rule.IsLegible) ∧
      arrows.toText = "-> -> a|b | -> -> | a|b\n| -> -> | \n" ∧
      bars.toText = arrows.toText ∧
      Rule.readAll "-> -> a|b | -> -> | a|b\n| -> -> | \n" =
        [⟨"->", ["a|b"]⟩, ⟨"->", ["->", "->"]⟩, ⟨"->", ["a|b"]⟩,
          ⟨"|", ["->"]⟩, ⟨"|", [""]⟩] ∧
      bars.rules = arrows.rules := by
  have legible : ∀ rule ∈ arrows.rules, rule.IsLegible := by decide
  have otherLegible : ∀ rule ∈ bars.rules, rule.IsLegible := by decide
  have text : arrows.toText = "-> -> a|b | -> -> | a|b\n| -> -> | \n" := by
    decide
  have sameText : bars.toText = arrows.toText := by decide
  obtain ⟨read, unique⟩ := toText_tells_rules legible
  rw [text] at read
  refine ⟨legible, otherLegible, text, sameText, ?_,
    unique bars otherLegible sameText⟩
  rw [read]
  decide

end Grammar

end SentenceChart
