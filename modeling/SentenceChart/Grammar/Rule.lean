/-!
# Rules and their grouping

A rule rewrites its head to its body.  `grouped` brings the rules of each
head together without changing their order: heads come in the order of their
first rule.  Grouping commutes with every selection by heads
(`grouped_filter_head`), so a grouped list is grouped already
(`grouped_grouped`).
-/

namespace SentenceChart

/-- A word of the language or a nonterminal of the grammar. -/
abbrev Symbol := String

/-- A rewriting rule. -/
structure Rule where
  /-- The nonterminal that is rewritten. -/
  head : Symbol
  /-- The symbols that it is rewritten to. -/
  body : List Symbol
deriving DecidableEq

namespace Rule

/-- The heads of the rules in the order of their first rule. -/
def heads (rules : List Rule) : List Symbol :=
  (rules.map head).eraseDups

/-- The rules with those of one head next to each other. -/
def grouped : List Rule → List Rule
  | [] => []
  | rule :: rest =>
      rule :: ((grouped rest).filter (·.head == rule.head) ++
        (grouped rest).filter (·.head != rule.head))

theorem mem_heads_iff {rules : List Rule} {symbol : Symbol} :
    symbol ∈ heads rules ↔ ∃ rule ∈ rules, rule.head = symbol := by
  simp [heads, List.mem_eraseDups]

theorem mem_grouped_iff {rules : List Rule} {rule : Rule} :
    rule ∈ grouped rules ↔ rule ∈ rules := by
  induction rules with
  | nil => simp [grouped]
  | cons first rest ih =>
      by_cases same : rule.head = first.head <;>
        simp [grouped, ih, same]

/-- Choosing rules by their heads before or after grouping is the same. -/
theorem grouped_filter_head (keep : Symbol → Bool) (rules : List Rule) :
    grouped (rules.filter (fun rule => keep rule.head)) =
      (grouped rules).filter (fun rule => keep rule.head) := by
  induction rules with
  | nil => rfl
  | cons first rest ih =>
      by_cases kept : keep first.head
      · simp only [List.filter_cons_of_pos, kept, grouped, ih,
          List.filter_append, List.filter_filter]
        simp only [Bool.and_comm]
      · simp only [List.filter_cons, kept, grouped, ih, List.filter_append,
          List.filter_filter, Bool.false_eq_true, if_false]
        have sameDropped : (grouped rest).filter
            (fun rule => keep rule.head && rule.head == first.head) = [] := by
          rw [List.filter_eq_nil_iff]
          intro rule _ both
          simp only [Bool.and_eq_true, beq_iff_eq] at both
          exact kept (both.2 ▸ both.1)
        rw [sameDropped, List.nil_append]
        apply List.filter_congr
        intro rule _
        by_cases same : rule.head = first.head <;> simp [same, kept]

/-- Choosing rules by their heads twice is choosing them once if the choices
agree, and chooses nothing if they exclude each other. -/
private theorem filter_split (rules : List Rule) (first : Symbol) :
    (rules.filter (·.head == first) ++ rules.filter (·.head != first)).filter
        (·.head == first) = rules.filter (·.head == first) ∧
      (rules.filter (·.head == first) ++ rules.filter (·.head != first)).filter
        (·.head != first) = rules.filter (·.head != first) := by
  have exclusive (rule : Rule) :
      (rule.head == first && rule.head != first) = false := by
    cases same : rule.head == first <;> simp [bne, same]
  constructor <;>
    simp [List.filter_append, List.filter_filter, exclusive]

/-- A grouped list is its own grouping. -/
theorem grouped_grouped (rules : List Rule) :
    grouped (grouped rules) = grouped rules := by
  induction rules with
  | nil => rfl
  | cons first rest ih =>
      have split := filter_split (grouped rest) first.head
      have same := grouped_filter_head (· == first.head)
      have other := grouped_filter_head (· != first.head)
      rw [grouped, grouped, ← same, split.1, same, ih, ← other (_ ++ _),
        split.2, other, ih]

/-- Grouping keeps the heads. -/
theorem mem_heads_grouped_iff {rules : List Rule} {symbol : Symbol} :
    symbol ∈ heads (grouped rules) ↔ symbol ∈ heads rules := by
  simp only [mem_heads_iff, mem_grouped_iff]

/-- The symbols of a body with a space between them. -/
def writtenBody (body : List Symbol) : List Char :=
  [' '].intercalate (body.map String.toList)

/-- The text of the rule: its head, an arrow and its body. -/
def written (rule : Rule) : List Char :=
  rule.head.toList ++ " -> ".toList ++ writtenBody rule.body

def toText (rule : Rule) : String :=
  String.ofList rule.written

theorem toText_eq (rule : Rule) :
    rule.toText = rule.head ++ " -> " ++ " ".intercalate rule.body := by
  apply String.toList_inj.mp
  rw [toText, String.toList_ofList, written, writtenBody, String.toList_append,
    String.toList_append, String.toList_intercalate]
  rfl

end Rule

end SentenceChart
