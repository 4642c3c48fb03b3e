import Mathlib.Logic.Function.Iterate
import Mathlib.Logic.Relation
import Mathlib.Order.Bounds.Defs
import SentenceChart.Proofs.Derivation

/-!
# The closure as a least set

The closure of a cell is the least set that holds the cell and the head of every
unit rule whose target it holds.  A pass tries every rule once, each on what the
rules before it have left.  Passes come to an end, since a pass that changes the
cell leaves fewer rules whose head is missing, and then the cell is the closure,
whatever the order of the rules and however often a rule is listed.
-/

namespace SentenceChart

namespace Cell

/-- The cell after one rule has been tried. -/
def extend (cell : Cell) (rule : Rule) : Cell :=
  if admits cell rule then rule.head :: cell else cell

/-- The cell after all rules have been tried in turn. -/
def pass (units : List Rule) (cell : Cell) : Cell :=
  units.foldl extend cell

section Closure

variable {units : List Rule} {cell : Cell}

theorem closeUnder_eq_self
    (saturated : ∀ rule ∈ units, admits cell rule = false) :
    closeUnder units cell = cell := by
  have nothing : units.find? (admits cell) = none := by
    simpa using saturated
  rw [closeUnder]
  split
  · rfl
  · rename_i rule found
    rw [nothing] at found
    cases found

theorem closeUnder_closeUnder :
    closeUnder units (closeUnder units cell) = closeUnder units cell :=
  closeUnder_eq_self (not_admits_closeUnder cell)

theorem closeUnder_subset_closeUnder {more : List Rule} {larger : Cell}
    (rules : units ⊆ more) (symbols : cell ⊆ larger) :
    closeUnder units cell ⊆ closeUnder more larger := by
  apply mem_of_mem_closeUnder
  · intro symbol member
    exact subset_closeUnder larger symbol (symbols member)
  · intro rule member bodyHeld
    exact head_mem_closeUnder (rules member) bodyHeld

end Closure

section Pass

variable {units : List Rule} {cell : Cell}

theorem subset_extend (cell : Cell) (rule : Rule) :
    cell ⊆ extend cell rule := by
  rw [extend]
  split
  · exact List.subset_cons_self _ _
  · exact List.Subset.refl _

theorem subset_pass (units : List Rule) (cell : Cell) :
    cell ⊆ pass units cell := by
  induction units generalizing cell with
  | nil => exact List.Subset.refl _
  | cons rule rest ih =>
      exact List.Subset.trans (subset_extend cell rule) (ih (extend cell rule))

theorem head_mem_pass {rule : Rule} (member : rule ∈ units)
    (bodyHeld : ∀ symbol ∈ rule.body, symbol ∈ cell) :
    rule.head ∈ pass units cell := by
  induction units generalizing cell with
  | nil => cases member
  | cons first rest ih =>
      rcases List.mem_cons.mp member with rfl | later
      · apply subset_pass rest
        rw [extend]
        split
        · exact List.mem_cons_self
        · rename_i notAdmitted
          by_contra absent
          exact notAdmitted (admits_iff.mpr ⟨absent, bodyHeld⟩)
      · apply ih later
        intro symbol inBody
        exact subset_extend cell first (bodyHeld symbol inBody)

theorem pass_eq_self_iff :
    pass units cell = cell ↔ ∀ rule ∈ units, admits cell rule = false := by
  constructor
  · intro unchanged rule member
    rw [← Bool.not_eq_true, admits_iff]
    rintro ⟨absent, bodyHeld⟩
    have held := head_mem_pass member bodyHeld
    rw [unchanged] at held
    exact absent held
  · intro saturated
    induction units with
    | nil => rfl
    | cons rule rest ih =>
        have kept : extend cell rule = cell := by
          simp [extend, saturated rule List.mem_cons_self]
        have restSaturated : ∀ other ∈ rest, admits cell other = false :=
          fun other later => saturated other (List.mem_cons_of_mem _ later)
        rw [pass, List.foldl_cons, kept]
        exact ih restSaturated

theorem missing_pass_lt (changed : pass units cell ≠ cell) :
    missing units (pass units cell) < missing units cell := by
  obtain ⟨rule, member, admitted⟩ :
      ∃ rule ∈ units, admits cell rule = true := by
    rw [ne_eq, pass_eq_self_iff] at changed
    simpa using changed
  obtain ⟨absent, bodyHeld⟩ := admits_iff.mp admitted
  exact missing_lt_missing (subset_pass units cell) member absent
    (head_mem_pass member bodyHeld)

/-- A set that holds the cell, and the heads of the rules whose bodies it holds,
holds what a pass gives. -/
theorem mem_of_mem_pass {holds : Symbol → Prop}
    (start : ∀ symbol ∈ cell, holds symbol)
    (closed : ∀ rule ∈ units,
      (∀ symbol ∈ rule.body, holds symbol) → holds rule.head) :
    ∀ symbol ∈ pass units cell, holds symbol := by
  induction units generalizing cell with
  | nil => exact start
  | cons rule rest ih =>
      apply ih
      · rw [extend]
        split
        · rename_i admitted
          obtain ⟨_, bodyHeld⟩ := admits_iff.mp admitted
          have headHeld : holds rule.head :=
            closed rule List.mem_cons_self
              fun symbol inBody => start symbol (bodyHeld symbol inBody)
          simpa using ⟨headHeld, start⟩
        · exact start
      · intro other later
        exact closed other (List.mem_cons_of_mem _ later)

theorem passes_bounds (units : List Rule) (cell : Cell) (passes : Nat) :
    cell ⊆ (pass units)^[passes] cell ∧
      (pass units)^[passes] cell ⊆ closeUnder units cell := by
  induction passes with
  | zero => exact ⟨List.Subset.refl _, subset_closeUnder cell⟩
  | succ passes ih =>
      rw [Function.iterate_succ_apply']
      constructor
      · exact List.Subset.trans ih.1 (subset_pass units _)
      · apply mem_of_mem_pass ih.2
        intro rule member bodyHeld
        exact head_mem_closeUnder member bodyHeld

theorem mem_passes_iff {passes : Nat}
    (ended : pass units ((pass units)^[passes] cell) =
      (pass units)^[passes] cell) (symbol : Symbol) :
    symbol ∈ (pass units)^[passes] cell ↔ symbol ∈ closeUnder units cell := by
  obtain ⟨kept, inClosure⟩ := passes_bounds units cell passes
  constructor
  · intro member
    exact inClosure member
  · apply mem_of_mem_closeUnder kept
    intro rule member bodyHeld
    rw [← ended]
    exact head_mem_pass member bodyHeld

/-- Passes come to an end, at the latest after one for each missing head. -/
theorem exists_passes_end (units : List Rule) (cell : Cell) :
    ∃ passes ≤ missing units cell,
      pass units ((pass units)^[passes] cell) = (pass units)^[passes] cell := by
  -- The first pass either changes nothing or leaves fewer heads missing.
  induction count : missing units cell using Nat.strongRecOn
    generalizing cell with
  | ind _ ih =>
      subst count
      by_cases unchanged : pass units cell = cell
      · exact ⟨0, Nat.zero_le _, unchanged⟩
      · have fewer := missing_pass_lt unchanged
        obtain ⟨passes, few, ended⟩ := ih _ fewer (pass units cell) rfl
        exact ⟨passes + 1, by omega, ended⟩

/-- Rules on a cycle that are listed against its direction need a pass each. -/
example :
    let units : List Rule := [⟨"C", ["B"]⟩, ⟨"B", ["A"]⟩, ⟨"A", ["C"]⟩]
    pass units ["A"] = ["B", "A"] ∧
      pass units ["B", "A"] = ["C", "B", "A"] ∧
      pass units ["C", "B", "A"] = ["C", "B", "A"] := by
  decide

end Pass

end Cell

namespace Grammar

/-- A rule rewrites the head to one nonterminal. -/
def HasUnitRule (grammar : Grammar) (head target : Symbol) : Prop :=
  (⟨head, [target]⟩ : Rule) ∈ grammar.rules ∧ target ∈ grammar.nonterminals

/-- The set holds the cell and the head of every unit rule whose target it
holds. -/
structure IsClosedOver (grammar : Grammar) (cell : Cell)
    (symbols : Set Symbol) : Prop where
  mem_of_mem : ∀ symbol ∈ cell, symbol ∈ symbols
  head_mem : ∀ head target, grammar.HasUnitRule head target →
    target ∈ symbols → head ∈ symbols

variable {grammar : Grammar} {cell : Cell}

theorem unitReaches_iff {head symbol : Symbol} :
    grammar.UnitReaches head symbol ↔
      Relation.ReflTransGen grammar.HasUnitRule head symbol := by
  constructor
  · intro reached
    induction reached with
    | refl => exact .refl
    | step member notTerminal _ ih =>
        exact .head ⟨member, isTerminal_eq_false_iff.mp notTerminal⟩ ih
  · intro chain
    induction chain using Relation.ReflTransGen.head_induction_on with
    | refl => exact .refl symbol
    | head first _ ih =>
        exact .step first.1 (isTerminal_eq_false_iff.mpr first.2) ih

/-- The closure adds the symbols from which one or more unit rules lead to the
cell. -/
theorem mem_close_iff_transGen {symbol : Symbol} :
    symbol ∈ grammar.close cell ↔
      symbol ∈ cell ∨
        ∃ target ∈ cell,
          Relation.TransGen grammar.HasUnitRule symbol target := by
  simp only [mem_close_iff, unitReaches_iff,
    Relation.reflTransGen_iff_eq_or_transGen]
  constructor
  · rintro ⟨target, member, rfl | chain⟩
    · exact .inl member
    · exact .inr ⟨target, member, chain⟩
  · rintro (member | ⟨target, member, chain⟩)
    · exact ⟨symbol, member, .inl rfl⟩
    · exact ⟨target, member, .inr chain⟩

theorem isClosedOver_close (grammar : Grammar) (cell : Cell) :
    grammar.IsClosedOver cell {symbol | symbol ∈ grammar.close cell} where
  mem_of_mem := Cell.subset_closeUnder cell
  head_mem := by
    rintro head target ⟨member, nonterminal⟩ held
    exact mem_close_of_rule member (isTerminal_eq_false_iff.mpr nonterminal)
      held

theorem IsClosedOver.close_subset {symbols : Set Symbol}
    (closed : grammar.IsClosedOver cell symbols) :
    ∀ symbol ∈ grammar.close cell, symbol ∈ symbols := by
  apply Cell.mem_of_mem_closeUnder closed.mem_of_mem
  intro rule unitMember bodyHeld
  obtain ⟨member, target, nonterminal, bodyEq⟩ :=
    mem_unitRules_iff.mp unitMember
  have unitRule : grammar.HasUnitRule rule.head target := by
    refine ⟨?_, nonterminal⟩
    rwa [← bodyEq]
  exact closed.head_mem rule.head target unitRule
    (bodyHeld target (by simp [bodyEq]))

/-- The closure is the least set that holds the cell and is closed under the unit
rules; it adds what unit rules lead from to the cell.  Closing again adds
nothing, and a larger cell has a larger closure.  Any list of the unit rules
gives the same closure, and passes over it end there. -/
theorem close_isLeast_anyOrder (grammar : Grammar) (cell : Cell) :
    IsLeast {symbols : Set Symbol | grammar.IsClosedOver cell symbols}
        {symbol | symbol ∈ grammar.close cell} ∧
      (∀ symbol, symbol ∈ grammar.close cell ↔
        symbol ∈ cell ∨
          ∃ target ∈ cell,
            Relation.TransGen grammar.HasUnitRule symbol target) ∧
      grammar.close (grammar.close cell) = grammar.close cell ∧
      (∀ larger, cell ⊆ larger → grammar.close cell ⊆ grammar.close larger) ∧
      ∀ units : List Rule, (∀ rule, rule ∈ units ↔ rule ∈ grammar.unitRules) →
        (∀ symbol,
          symbol ∈ Cell.closeUnder units cell ↔ symbol ∈ grammar.close cell) ∧
        ∃ passes ≤ Cell.missing units cell,
          Cell.pass units ((Cell.pass units)^[passes] cell) =
              (Cell.pass units)^[passes] cell ∧
            ∀ symbol, symbol ∈ (Cell.pass units)^[passes] cell ↔
              symbol ∈ grammar.close cell := by
  refine ⟨⟨isClosedOver_close grammar cell, ?_⟩, ?_, ?_, ?_, ?_⟩
  · intro symbols closed
    exact closed.close_subset
  · intro symbol
    exact mem_close_iff_transGen
  · exact Cell.closeUnder_closeUnder
  · intro larger symbols
    exact Cell.closeUnder_subset_closeUnder (List.Subset.refl _) symbols
  · intro units sameRules
    have sameClosure (symbol : Symbol) :
        symbol ∈ Cell.closeUnder units cell ↔ symbol ∈ grammar.close cell := by
      constructor
      · apply Cell.closeUnder_subset_closeUnder _ (List.Subset.refl _)
        exact fun rule => (sameRules rule).mp
      · apply Cell.closeUnder_subset_closeUnder _ (List.Subset.refl _)
        exact fun rule => (sameRules rule).mpr
    obtain ⟨passes, few, ended⟩ := Cell.exists_passes_end units cell
    refine ⟨sameClosure, passes, few, ended, ?_⟩
    intro symbol
    rw [Cell.mem_passes_iff ended, sameClosure]

end Grammar

end SentenceChart
