import SentenceChart.Chart.Fill
import SentenceChart.Tree.Basic

/-!
# Rebuilding a derivation from a chart

A symbol over one word that a rule rewrites to this word is a leaf.  Otherwise
the first cut with a rule whose two nonterminals are in the cells of the parts
gives a node with two children.  Otherwise the first rule with one nonterminal
in the same cell whose own tree is not bare gives a node with one child; the
nonterminals on the way down are not visited again.  A symbol that none of this
fits is a bare node.  The chart may hold any cells.
-/

namespace SentenceChart.Chart

def token (chart : Chart) (position : Nat) : String :=
  chart.tokens.getD position ""

/-- The first cut of a span, and the first body of a symbol at this cut, whose
nonterminals are in the cells of the two parts. -/
def cut? (chart : Chart) (grammar : Grammar) (first last : Nat)
    (symbol : Symbol) : Option (Nat × Symbol × Symbol) :=
  (List.range' first (last - first)).findSome? fun cut =>
    (grammar.bodiesOf symbol).findSome? fun body =>
      match body with
      | [left, right] =>
          if (chart.cell first cut).contains left &&
              (chart.cell (cut + 1) last).contains right then
            some (cut, left, right)
          else
            none
      | _ => none

/-- The nonterminals of a span that a symbol rewrites to by itself and that were
not seen on the way. -/
def targets (chart : Chart) (grammar : Grammar) (first last : Nat)
    (seen : List Symbol) (symbol : Symbol) : List Symbol :=
  (grammar.bodiesOf symbol).filterMap fun body =>
    match body with
    | [target] =>
        if !grammar.isTerminal target && !seen.contains target &&
            (chart.cell first last).contains target then
          some target
        else
          none
    | _ => none

/-- The number of nonterminals that were not seen. -/
def unseen (grammar : Grammar) (seen : List Symbol) : Nat :=
  (grammar.nonterminals.filter fun symbol => !seen.contains symbol).length

theorem cut?_bounds {chart : Chart} {grammar : Grammar} {first last cut : Nat}
    {symbol left right : Symbol}
    (found : chart.cut? grammar first last symbol = some (cut, left, right)) :
    first ≤ cut ∧ cut < last := by
  obtain ⟨position, member, atPosition⟩ :=
    List.exists_of_findSome?_eq_some found
  obtain ⟨body, _, atBody⟩ := List.exists_of_findSome?_eq_some atPosition
  have same : position = cut := by
    split at atBody
    · split at atBody
      · simp only [Option.some.injEq, Prod.mk.injEq] at atBody
        exact atBody.1
      · cases atBody
    · cases atBody
  rw [List.mem_range'_1] at member
  omega

theorem mem_targets {chart : Chart} {grammar : Grammar} {first last : Nat}
    {seen : List Symbol} {symbol target : Symbol}
    (member : target ∈ chart.targets grammar first last seen symbol) :
    [target] ∈ grammar.bodiesOf symbol ∧ target ∈ grammar.nonterminals ∧
      target ∉ seen ∧ target ∈ chart.cell first last := by
  obtain ⟨body, bodyMember, atBody⟩ := List.mem_filterMap.mp member
  split at atBody
  · split at atBody
    · rename_i passed
      cases atBody
      simp only [Bool.and_eq_true, Bool.not_eq_true',
        Grammar.isTerminal_eq_false_iff, List.contains_eq_mem,
        decide_eq_true_eq, decide_eq_false_iff_not] at passed
      exact ⟨bodyMember, passed.1.1, passed.1.2, passed.2⟩
    · cases atBody
  · cases atBody

theorem unseen_cons_lt {grammar : Grammar} {seen : List Symbol}
    {symbol : Symbol} (isNonterminal : symbol ∈ grammar.nonterminals)
    (notSeen : symbol ∉ seen) :
    unseen grammar (symbol :: seen) < unseen grammar seen := by
  have fewer :
      grammar.nonterminals.filter
          (fun other => !(symbol :: seen).contains other) =
        (grammar.nonterminals.filter fun other => !seen.contains other).filter
          fun other => other != symbol := by
    rw [List.filter_filter]
    apply List.filter_congr
    intro other _
    by_cases same : other = symbol <;> simp [same]
  rw [unseen, unseen, fewer, List.length_filter_lt_length_iff_exists]
  exact ⟨symbol, by simp [isNonterminal, notSeen], by simp⟩

/-- A bound on what is left to do: every shorter span outweighs all the
nonterminals of one span. -/
def work (grammar : Grammar) (words : Nat) (seen : List Symbol) : Nat :=
  words * (grammar.nonterminals.length + 1) + unseen grammar seen

theorem work_lt_of_shorter {grammar : Grammar} {fewer words : Nat}
    (shorter : fewer < words) (seen seen' : List Symbol) :
    work grammar fewer seen < work grammar words seen' := by
  have room : unseen grammar seen ≤ grammar.nonterminals.length :=
    List.length_filter_le _ _
  calc
    work grammar fewer seen
        < (fewer + 1) * (grammar.nonterminals.length + 1) := by
          rw [work, Nat.succ_mul]
          omega
    _ ≤ words * (grammar.nonterminals.length + 1) :=
      Nat.mul_le_mul_right _ shorter
    _ ≤ work grammar words seen' := Nat.le_add_right _ _

/-- The tree of a symbol over a span, after the given symbols over the same
span.  `shown` says how the word at a position appears in its leaf; a leaf
whose word does not appear is bare. -/
def treeShowing (chart : Chart) (grammar : Grammar)
    (shown : Nat → Option String) (first last : Nat) (seen : List Symbol)
    (symbol : Symbol) : Tree :=
  if first == last &&
      (grammar.bodiesOf symbol).contains [chart.token first] then
    .node symbol [] (shown first)
  else
    match _ : chart.cut? grammar first last symbol with
    | some (cut, left, right) =>
        .pair symbol (chart.treeShowing grammar shown first cut [] left)
          (chart.treeShowing grammar shown (cut + 1) last [] right)
    | none =>
        let children :=
          (chart.targets grammar first last (symbol :: seen) symbol).attach
        match children.findSome? fun ⟨target, _⟩ =>
            let child :=
              chart.treeShowing grammar shown first last (symbol :: seen)
                target
            if child.isBare then none else some child with
        | some child => .unit symbol child
        | none => .bare symbol
termination_by work grammar (last - first) (symbol :: seen)
decreasing_by
  · rename_i found
    have bounds := cut?_bounds found
    exact work_lt_of_shorter (by omega) _ _
  · rename_i found
    have bounds := cut?_bounds found
    exact work_lt_of_shorter (by omega) _ _
  · rename_i member
    have target := mem_targets member
    exact Nat.add_lt_add_left (unseen_cons_lt target.2.1 target.2.2.1) _

/-- The first preference that fits decides about a tree. -/
theorem treeShowing_eq (chart : Chart) (grammar : Grammar)
    (shown : Nat → Option String) (first last : Nat) (seen : List Symbol)
    (symbol : Symbol) :
    chart.treeShowing grammar shown first last seen symbol =
      if first == last &&
          (grammar.bodiesOf symbol).contains [chart.token first] then
        .node symbol [] (shown first)
      else
        match chart.cut? grammar first last symbol with
        | some (cut, left, right) =>
            .pair symbol (chart.treeShowing grammar shown first cut [] left)
              (chart.treeShowing grammar shown (cut + 1) last [] right)
        | none =>
            match (chart.targets grammar first last (symbol :: seen)
                symbol).findSome? fun target =>
                  let child :=
                    chart.treeShowing grammar shown first last
                      (symbol :: seen) target
                  if child.isBare then none else some child with
            | some child => .unit symbol child
            | none => .bare symbol := by
  rw [treeShowing]
  split
  · rfl
  · split
    · rename_i found
      simp only [found]
    · rename_i absent
      simp only [absent, List.findSome?_subtype, List.unattach_attach]

/-- The tree of a symbol over a span in which every word appears as it is. -/
def treeAt (chart : Chart) (grammar : Grammar) (first last : Nat)
    (seen : List Symbol) (symbol : Symbol) : Tree :=
  chart.treeShowing grammar (fun position => some (chart.token position)) first
    last seen symbol

theorem treeAt_eq (chart : Chart) (grammar : Grammar) (first last : Nat)
    (seen : List Symbol) (symbol : Symbol) :
    chart.treeAt grammar first last seen symbol =
      if first == last &&
          (grammar.bodiesOf symbol).contains [chart.token first] then
        .leaf symbol (chart.token first)
      else
        match chart.cut? grammar first last symbol with
        | some (cut, left, right) =>
            .pair symbol (chart.treeAt grammar first cut [] left)
              (chart.treeAt grammar (cut + 1) last [] right)
        | none =>
            match (chart.targets grammar first last (symbol :: seen)
                symbol).findSome? fun target =>
                  let child :=
                    chart.treeAt grammar first last (symbol :: seen) target
                  if child.isBare then none else some child with
            | some child => .unit symbol child
            | none => .bare symbol :=
  chart.treeShowing_eq grammar _ first last seen symbol

/-- The tree of a symbol over the whole sentence. -/
def tree (chart : Chart) (grammar : Grammar) (symbol : Symbol) : Tree :=
  chart.treeAt grammar 0 (chart.length - 1) [] symbol

/-- The tree of the start symbol over the whole sentence. -/
def startTree (chart : Chart) (grammar : Grammar) : Tree :=
  chart.tree grammar chart.start

end SentenceChart.Chart
