import SentenceChart.Chart.Basic
import SentenceChart.Grammar.Basic

/-!
# Closing a cell under unit rules

A rule with one nonterminal as its body adds its head to every cell that holds
this nonterminal.  The closure adds heads until no rule adds another one; each
step leaves fewer rules whose head is missing.
-/

namespace SentenceChart.Cell

/-- Whether a rule with a body of one symbol adds its head to the cell. -/
def admits (cell : Cell) (rule : Rule) : Bool :=
  !cell.contains rule.head && rule.body.all cell.contains

theorem admits_iff {cell : Cell} {rule : Rule} :
    admits cell rule = true ↔
      rule.head ∉ cell ∧ ∀ symbol ∈ rule.body, symbol ∈ cell := by
  simp [admits]

/-- The number of rules whose head is missing in the cell. -/
def missing (units : List Rule) (cell : Cell) : Nat :=
  (units.filter fun rule => !cell.contains rule.head).length

/-- A larger cell that has a missing head lacks fewer heads. -/
theorem missing_lt_missing {units : List Rule} {cell larger : Cell}
    (subset : cell ⊆ larger) {rule : Rule} (member : rule ∈ units)
    (absent : rule.head ∉ cell) (held : rule.head ∈ larger) :
    missing units larger < missing units cell := by
  have fewer :
      units.filter (fun other => !larger.contains other.head) =
        (units.filter fun other => !cell.contains other.head).filter
          fun other => !larger.contains other.head := by
    rw [List.filter_filter]
    apply List.filter_congr
    intro other _
    by_cases old : other.head ∈ cell
    · simp [old, subset old]
    · simp [old]
  rw [missing, missing, fewer, List.length_filter_lt_length_iff_exists]
  exact ⟨rule, by simp [member, absent], by simp [held]⟩

theorem missing_cons_lt {units : List Rule} {cell : Cell} {rule : Rule}
    (member : rule ∈ units) (admitted : admits cell rule = true) :
    missing units (rule.head :: cell) < missing units cell :=
  missing_lt_missing (List.subset_cons_self _ _) member
    (admits_iff.mp admitted).1 List.mem_cons_self

/-- The least set that holds the cell and the head of every rule whose body it
holds. -/
def closeUnder (units : List Rule) (cell : Cell) : Cell :=
  match _ : units.find? (admits cell) with
  | none => cell
  | some rule => closeUnder units (rule.head :: cell)
termination_by missing units cell
decreasing_by
  rename_i found
  exact missing_cons_lt (List.mem_of_find?_eq_some found)
    (List.find?_some found)

/-- The closure keeps the cell. -/
theorem subset_closeUnder {units : List Rule} (cell : Cell) :
    ∀ symbol ∈ cell, symbol ∈ closeUnder units cell := by
  intro symbol member
  fun_induction closeUnder units cell with
  | case1 => exact member
  | case2 cell rule found ih => exact ih (List.mem_cons_of_mem _ member)

/-- No rule adds anything to the closure. -/
theorem not_admits_closeUnder {units : List Rule} (cell : Cell) :
    ∀ rule ∈ units, admits (closeUnder units cell) rule = false := by
  fun_induction closeUnder units cell with
  | case1 cell none =>
      intro rule member
      simpa using List.find?_eq_none.mp none rule member
  | case2 cell rule found ih => exact ih

/-- The closure holds the head of a rule whose body it holds. -/
theorem head_mem_closeUnder {units : List Rule} {cell : Cell} {rule : Rule}
    (member : rule ∈ units)
    (bodyHeld : ∀ symbol ∈ rule.body, symbol ∈ closeUnder units cell) :
    rule.head ∈ closeUnder units cell := by
  by_cases held : rule.head ∈ closeUnder units cell
  · exact held
  · have admitted := admits_iff.mpr ⟨held, bodyHeld⟩
    rw [not_admits_closeUnder cell rule member] at admitted
    cases admitted

/-- A set that holds the cell and to which no rule adds anything holds the
closure. -/
theorem mem_of_mem_closeUnder {units : List Rule} {cell : Cell}
    {holds : Symbol → Prop} (start : ∀ symbol ∈ cell, holds symbol)
    (closed : ∀ rule ∈ units,
      (∀ symbol ∈ rule.body, holds symbol) → holds rule.head) :
    ∀ symbol ∈ closeUnder units cell, holds symbol := by
  fun_induction closeUnder units cell with
  | case1 => exact start
  | case2 cell rule found ih =>
      apply ih
      intro symbol member
      rcases List.mem_cons.mp member with rfl | earlier
      · obtain ⟨_, bodyHeld⟩ := admits_iff.mp (List.find?_some found)
        exact closed rule (List.mem_of_find?_eq_some found)
          fun symbol inBody => start symbol (bodyHeld symbol inBody)
      · exact start symbol earlier

end SentenceChart.Cell

namespace SentenceChart.Grammar

/-- The closure of a cell under the unit rules of the grammar. -/
def close (grammar : Grammar) (cell : Cell) : Cell :=
  Cell.closeUnder grammar.unitRules cell

end SentenceChart.Grammar
