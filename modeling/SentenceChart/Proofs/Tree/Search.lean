import SentenceChart.Tree.Rebuild

/-!
# The search for unit rules

A search that never comes back to what it saw on its way still finds every goal
that can be reached, because a way to a goal can be entered where it leaves a
symbol for the last time (`ReachesAvoiding.cut`).  `Rebuilds` lists the four
ways in which the tree of a symbol comes about in any chart, and
`isBare_treeAt_eq_false_iff` says when it is not bare.
-/

namespace SentenceChart

/-- The first of the items that fits. -/
def IsFirst {α : Type} (fits : α → Prop) (items : List α) (item : α) : Prop :=
  ∃ before after, items = before ++ item :: after ∧
    (∀ earlier ∈ before, ¬fits earlier) ∧ fits item

namespace IsFirst

variable {α : Type} {fits : α → Prop} {items : List α} {item : α}

theorem mem (first : IsFirst fits items item) : item ∈ items := by
  obtain ⟨before, after, rfl, _⟩ := first
  exact List.mem_append_right _ List.mem_cons_self

theorem fits_self (first : IsFirst fits items item) : fits item := by
  obtain ⟨_, _, _, _, itemFits⟩ := first
  exact itemFits

theorem congr {fits' : α → Prop}
    (same : ∀ other ∈ items, fits other ↔ fits' other)
    (first : IsFirst fits items item) : IsFirst fits' items item := by
  obtain ⟨before, after, rfl, earlier, itemFits⟩ := first
  refine ⟨before, after, rfl, ?_, (same item (by simp)).mp itemFits⟩
  intro other member otherFits
  exact earlier other member ((same other (by simp [member])).mpr otherFits)

theorem cons_iff {first : α} {rest : List α} :
    IsFirst fits (first :: rest) item ↔
      fits first ∧ item = first ∨ ¬fits first ∧ IsFirst fits rest item := by
  constructor
  · rintro ⟨before, after, split, earlier, itemFits⟩
    cases before with
    | nil =>
        cases split
        exact .inl ⟨itemFits, rfl⟩
    | cons head before =>
        cases split
        exact .inr ⟨earlier first List.mem_cons_self, before, after, rfl,
          fun other member => earlier other (List.mem_cons_of_mem _ member),
          itemFits⟩
  · rintro (⟨firstFits, rfl⟩ | ⟨firstFails, before, after, rfl, earlier,
      itemFits⟩)
    · exact ⟨[], rest, rfl, by simp, firstFits⟩
    · refine ⟨first :: before, after, rfl, ?_, itemFits⟩
      intro other member
      rcases List.mem_cons.mp member with rfl | later
      · exact firstFails
      · exact earlier other later

theorem unique {other : α} (first : IsFirst fits items item)
    (first' : IsFirst fits items other) : item = other := by
  induction items with
  | nil => exact absurd first.mem List.not_mem_nil
  | cons head rest ih =>
      rcases cons_iff.mp first with ⟨headFits, rfl⟩ | ⟨headFails, later⟩
      · rcases cons_iff.mp first' with ⟨_, rfl⟩ | ⟨headFails, _⟩
        · rfl
        · exact absurd headFits headFails
      · rcases cons_iff.mp first' with ⟨headFits, _⟩ | ⟨_, later'⟩
        · exact absurd headFits headFails
        · exact ih later later'

theorem of_findSome? {β : Type} {choose : α → Option β} {chosen : β}
    (found : items.findSome? choose = some chosen) :
    ∃ item, choose item = some chosen ∧
      IsFirst (fun other => (choose other).isSome = true) items item := by
  obtain ⟨before, item, after, split, itemChosen, earlier⟩ :=
    List.findSome?_eq_some_iff.mp found
  refine ⟨item, itemChosen, before, after, split, ?_, by simp [itemChosen]⟩
  intro other member
  simp [earlier other member]

theorem not_fits_of_lt {fits : Nat → Prop} {start count number : Nat}
    (first : IsFirst fits (List.range' start count) number) {smaller : Nat}
    (atLeast : start ≤ smaller) (before : smaller < number) :
    ¬fits smaller := by
  obtain ⟨front, back, split, earlier, _⟩ := first
  obtain ⟨size, _, rfl, backEq⟩ := List.range'_eq_append_iff.mp split
  obtain ⟨rfl, _⟩ := List.range'_eq_cons_iff.mp backEq.symm
  exact earlier smaller (List.mem_range'_1.mpr (by omega))

/-- What comes first after a selection was selected from what comes first. -/
theorem of_filterMap {β : Type} {select : α → Option β} {fits : β → Prop}
    {items : List α} {item : β}
    (first : IsFirst fits (items.filterMap select) item) :
    ∃ source, select source = some item ∧
      IsFirst (fun source => ∃ selected, select source = some selected ∧
        fits selected) items source := by
  obtain ⟨before, after, split, earlier, itemFits⟩ := first
  obtain ⟨front, back, rfl, rfl, backSplit⟩ :=
    List.filterMap_eq_append_iff.mp split
  obtain ⟨skipped, source, rest, rfl, skippedNone, selected, rfl⟩ :=
    List.filterMap_eq_cons_iff.mp backSplit
  refine ⟨source, selected, front ++ skipped, rest, by simp, ?_,
    item, selected, itemFits⟩
  rintro other member ⟨chosen, chosenEq, chosenFits⟩
  rcases List.mem_append.mp member with inFront | inSkipped
  · exact earlier chosen (List.mem_filterMap.mpr ⟨other, inFront, chosenEq⟩)
      chosenFits
  · rw [skippedNone other inSkipped] at chosenEq
    cases chosenEq

theorem filter_iff {keep : α → Bool} {items : List α}
    (kept : ∀ other ∈ items, fits other → keep other = true) :
    IsFirst fits (items.filter keep) item ↔ IsFirst fits items item := by
  induction items with
  | nil => rfl
  | cons first rest ih =>
      have restIff := ih fun other member =>
        kept other (List.mem_cons_of_mem _ member)
      by_cases keeps : keep first = true
      · rw [List.filter_cons_of_pos keeps, cons_iff, cons_iff, restIff]
      · have fails : ¬fits first :=
          fun firstFits => keeps (kept first List.mem_cons_self firstFits)
        rw [List.filter_cons_of_neg keeps, cons_iff, restIff]
        simp [fails]

/-- Only the first of equal items can be the first that fits. -/
theorem eraseDups_iff [BEq α] [LawfulBEq α] (items : List α) :
    IsFirst fits items.eraseDups item ↔ IsFirst fits items item := by
  -- The rest is filtered before its own repetitions go, so the recursion is on
  -- the length and not on the tail.
  cases items with
  | nil => rfl
  | cons first rest =>
      rw [List.eraseDups_cons, cons_iff, cons_iff, eraseDups_iff]
      apply or_congr_right
      apply and_congr_right
      intro firstFails
      apply filter_iff
      intro other _ otherFits
      have different : other ≠ first := by
        rintro rfl
        exact firstFails otherFits
      simpa using different
termination_by items.length
decreasing_by
  exact Nat.lt_succ_of_le (List.length_filter_le _ _)

end IsFirst

/-- A goal is reached from the symbol by steps that do not lead to an avoided
symbol. -/
inductive ReachesAvoiding (step : Symbol → Symbol → Prop)
    (goal : Symbol → Prop) (avoided : List Symbol) : Symbol → Prop where
  | here {symbol : Symbol} :
      goal symbol → ReachesAvoiding step goal avoided symbol
  | step {symbol target : Symbol} :
      step symbol target →
      target ∉ avoided →
      ReachesAvoiding step goal avoided target →
      ReachesAvoiding step goal avoided symbol

namespace ReachesAvoiding

variable {step : Symbol → Symbol → Prop} {goal : Symbol → Prop}
  {avoided : List Symbol} {symbol : Symbol}

theorem weaken {fewer : List Symbol}
    (subset : ∀ other ∈ fewer, other ∈ avoided)
    (reached : ReachesAvoiding step goal avoided symbol) :
    ReachesAvoiding step goal fewer symbol := by
  induction reached with
  | here found => exact .here found
  | step taken notAvoided _ ih =>
      exact .step taken (fun member => notAvoided (subset _ member)) ih

theorem mono {step' : Symbol → Symbol → Prop} {goal' : Symbol → Prop}
    (steps : ∀ source target, step source target → step' source target)
    (goals : ∀ found, goal found → goal' found)
    (reached : ReachesAvoiding step goal avoided symbol) :
    ReachesAvoiding step' goal' avoided symbol := by
  induction reached with
  | here found => exact .here (goals _ found)
  | step taken notAvoided _ ih =>
      exact .step (steps _ _ taken) notAvoided ih

theorem congr {step' : Symbol → Symbol → Prop} {goal' : Symbol → Prop}
    (steps : ∀ source target, step source target ↔ step' source target)
    (goals : ∀ found, goal found ↔ goal' found) :
    ReachesAvoiding step goal avoided symbol ↔
      ReachesAvoiding step' goal' avoided symbol := by
  constructor
  · exact .mono (fun _ _ => (steps _ _).mp) (fun _ => (goals _).mp)
  · exact .mono (fun _ _ => (steps _ _).mpr) (fun _ => (goals _).mpr)

/-- A way to a goal either stays away from a symbol or has a last part that
leaves this symbol for good. -/
private theorem avoid_or_cut (left : Symbol)
    (reached : ReachesAvoiding step goal avoided symbol) :
    ReachesAvoiding step goal (left :: avoided) symbol ∨
      ReachesAvoiding step goal (left :: avoided) left := by
  induction reached with
  | here found => exact .inl (.here found)
  | @step symbol target taken notAvoided _ ih =>
      rcases ih with away | last
      · by_cases same : target = left
        · exact .inr (same ▸ away)
        · exact .inl (.step taken (by simp [same, notAvoided]) away)
      · exact .inr last

/-- A goal that is reached from a symbol is reached without coming back to
it. -/
theorem cut (reached : ReachesAvoiding step goal avoided symbol) :
    ReachesAvoiding step goal (symbol :: avoided) symbol := by
  rcases avoid_or_cut symbol reached with away | last
  · exact away
  · exact last

theorem of_cons {other : Symbol}
    (reached : ReachesAvoiding step goal (other :: avoided) symbol) :
    ReachesAvoiding step goal avoided symbol :=
  reached.weaken fun _ member => List.mem_cons_of_mem _ member

/-- A goal is reached by a first step from which it is reached without coming
back. -/
theorem iff_first_step :
    ReachesAvoiding step goal avoided symbol ↔
      goal symbol ∨ ∃ target, step symbol target ∧
        target ∉ symbol :: avoided ∧
        ReachesAvoiding step goal (symbol :: avoided) target := by
  constructor
  · intro reached
    cases reached.cut with
    | here found => exact .inl found
    | @step _ target taken notAvoided rest =>
        exact .inr ⟨target, taken, notAvoided, rest⟩
  · rintro (found | ⟨target, taken, notAvoided, rest⟩)
    · exact .here found
    · refine .step taken ?_ rest.of_cons
      exact fun member => notAvoided (List.mem_cons_of_mem _ member)

end ReachesAvoiding

namespace Chart

variable {chart : Chart} {grammar : Grammar}

/-- The symbol is a leaf over the span. -/
def IsLeafAt (chart : Chart) (grammar : Grammar) (first last : Nat)
    (symbol : Symbol) : Prop :=
  first = last ∧ [chart.token first] ∈ grammar.bodiesOf symbol

/-- A unit rule leads from the symbol to a symbol in the cell of the span. -/
def StepsTo (chart : Chart) (grammar : Grammar) (first last : Nat)
    (symbol target : Symbol) : Prop :=
  [target] ∈ grammar.bodiesOf symbol ∧ target ∈ grammar.nonterminals ∧
    target ∈ chart.cell first last

/-- The symbol is a leaf or has a cut over the span. -/
def Fits (chart : Chart) (grammar : Grammar) (first last : Nat)
    (symbol : Symbol) : Prop :=
  chart.IsLeafAt grammar first last symbol ∨
    (chart.cut? grammar first last symbol).isSome = true

/-- The target of a body that hands the span on to a symbol that was not
seen. -/
def target? (chart : Chart) (grammar : Grammar) (first last : Nat)
    (seen : List Symbol) (body : List Symbol) : Option Symbol :=
  match body with
  | [target] =>
      if !grammar.isTerminal target && !seen.contains target &&
          (chart.cell first last).contains target then
        some target
      else
        none
  | _ => none

theorem targets_eq (chart : Chart) (grammar : Grammar) (first last : Nat)
    (seen : List Symbol) (symbol : Symbol) :
    chart.targets grammar first last seen symbol =
      (grammar.bodiesOf symbol).filterMap
        (chart.target? grammar first last seen) :=
  rfl

theorem target?_eq_some_iff {first last : Nat} {seen body : List Symbol}
    {target : Symbol} :
    chart.target? grammar first last seen body = some target ↔
      body = [target] ∧ target ∈ grammar.nonterminals ∧ target ∉ seen ∧
        target ∈ chart.cell first last := by
  unfold target?
  split
  · rename_i target'
    constructor
    · intro found
      split at found
      · rename_i passed
        cases found
        simpa [and_assoc, Grammar.isTerminal_eq_false_iff] using passed
      · cases found
    · rintro ⟨bodyEq, nonterminal, notSeen, inCell⟩
      cases bodyEq
      have notTerminal := Grammar.isTerminal_eq_false_iff.mpr nonterminal
      simp [notTerminal, notSeen, inCell]
  · rename_i notSingle
    simp only [reduceCtorEq, false_iff]
    rintro ⟨bodyEq, _⟩
    exact notSingle target bodyEq

theorem mem_targets_iff {first last : Nat} {seen : List Symbol}
    {symbol target : Symbol} :
    target ∈ chart.targets grammar first last seen symbol ↔
      chart.StepsTo grammar first last symbol target ∧ target ∉ seen := by
  simp only [targets_eq, List.mem_filterMap, target?_eq_some_iff, StepsTo]
  constructor
  · rintro ⟨_, member, rfl, nonterminal, notSeen, inCell⟩
    exact ⟨⟨member, nonterminal, inCell⟩, notSeen⟩
  · rintro ⟨⟨member, nonterminal, inCell⟩, notSeen⟩
    exact ⟨[target], member, rfl, nonterminal, notSeen, inCell⟩

/-- The body has two symbols that are in the cells of the parts at a cut. -/
def Joins (chart : Chart) (first cut last : Nat) (body : List Symbol) : Prop :=
  ∃ left right, body = [left, right] ∧ left ∈ chart.cell first cut ∧
    right ∈ chart.cell (cut + 1) last

/-- The cut with the two symbols of a body that joins the parts there. -/
def joined? (chart : Chart) (first cut last : Nat) (body : List Symbol) :
    Option (Nat × Symbol × Symbol) :=
  match body with
  | [left, right] =>
      if (chart.cell first cut).contains left &&
          (chart.cell (cut + 1) last).contains right then
        some (cut, left, right)
      else
        none
  | _ => none

theorem cut?_eq (chart : Chart) (grammar : Grammar) (first last : Nat)
    (symbol : Symbol) :
    chart.cut? grammar first last symbol =
      (List.range' first (last - first)).findSome? fun cut =>
        (grammar.bodiesOf symbol).findSome? (chart.joined? first cut last) :=
  rfl

theorem joined?_eq_some_iff {first cut last place : Nat}
    {body : List Symbol} {left right : Symbol} :
    chart.joined? first cut last body = some (place, left, right) ↔
      body = [left, right] ∧ place = cut ∧ left ∈ chart.cell first cut ∧
        right ∈ chart.cell (cut + 1) last := by
  unfold joined?
  split
  · rename_i left' right'
    constructor
    · intro found
      split at found
      · rename_i inCells
        cases found
        simp only [Bool.and_eq_true, List.contains_iff_mem] at inCells
        exact ⟨rfl, rfl, inCells⟩
      · cases found
    · rintro ⟨bodyEq, rfl, inLeft, inRight⟩
      cases bodyEq
      simp [inLeft, inRight]
  · rename_i notPair
    simp only [reduceCtorEq, false_iff]
    rintro ⟨bodyEq, _⟩
    exact notPair left right bodyEq

theorem isSome_joined?_iff {first cut last : Nat} {body : List Symbol} :
    (chart.joined? first cut last body).isSome = true ↔
      chart.Joins first cut last body := by
  simp only [Option.isSome_iff_exists, joined?_eq_some_iff, Prod.exists, Joins]
  constructor
  · rintro ⟨_, left, right, bodyEq, _, inCells⟩
    exact ⟨left, right, bodyEq, inCells⟩
  · rintro ⟨left, right, bodyEq, inCells⟩
    exact ⟨cut, left, right, bodyEq, rfl, inCells⟩

theorem isSome_cut?_iff {first last : Nat} {symbol : Symbol} :
    (chart.cut? grammar first last symbol).isSome = true ↔
      ∃ cut, first ≤ cut ∧ cut < last ∧
        ∃ body ∈ grammar.bodiesOf symbol, chart.Joins first cut last body := by
  simp only [cut?_eq, List.findSome?_isSome_iff, isSome_joined?_iff,
    List.mem_range'_1]
  constructor
  · rintro ⟨cut, bounds, joined⟩
    exact ⟨cut, by omega, by omega, joined⟩
  · rintro ⟨cut, ordered, inside, joined⟩
    exact ⟨cut, by omega, joined⟩

/-- The cut that is found is the first one at which a body joins the parts, and
its body is the first one that does. -/
theorem isFirst_of_cut?_eq_some {first last cut : Nat}
    {symbol left right : Symbol}
    (found : chart.cut? grammar first last symbol =
      some (cut, left, right)) :
    (∀ earlier, first ≤ earlier → earlier < cut →
      ∀ body ∈ grammar.bodiesOf symbol,
        ¬chart.Joins first earlier last body) ∧
      IsFirst (chart.Joins first cut last) (grammar.bodiesOf symbol)
        [left, right] := by
  rw [cut?_eq] at found
  obtain ⟨position, atPosition, firstPosition⟩ := IsFirst.of_findSome? found
  obtain ⟨body, atBody, firstBody⟩ := IsFirst.of_findSome? atPosition
  obtain ⟨rfl, rfl, _⟩ := joined?_eq_some_iff.mp atBody
  constructor
  · intro earlier ordered before body member joined
    apply firstPosition.not_fits_of_lt ordered before
    rw [List.findSome?_isSome_iff]
    exact ⟨body, member, isSome_joined?_iff.mpr joined⟩
  · exact firstBody.congr fun _ _ => isSome_joined?_iff

/-- The recursion of the rebuilding: the two parts of a cut, and the targets of
unit rules that were not seen. -/
theorem treeAt_induction (chart : Chart) (grammar : Grammar)
    {motive : Nat → Nat → List Symbol → Symbol → Prop}
    (step : ∀ first last seen symbol,
      (∀ cut left right,
        chart.cut? grammar first last symbol = some (cut, left, right) →
          motive first cut [] left ∧ motive (cut + 1) last [] right) →
      (∀ target ∈ chart.targets grammar first last (symbol :: seen) symbol,
        motive first last (symbol :: seen) target) →
      motive first last seen symbol)
    (first last : Nat) (seen : List Symbol) (symbol : Symbol) :
    motive first last seen symbol := by
  apply step
  · intro cut left right found
    have bounds := cut?_bounds found
    exact ⟨treeAt_induction chart grammar step first cut [] left,
      treeAt_induction chart grammar step (cut + 1) last [] right⟩
  · intro target member
    have fresh := mem_targets member
    exact treeAt_induction chart grammar step first last (symbol :: seen)
      target
termination_by work grammar (last - first) (symbol :: seen)
decreasing_by
  · exact work_lt_of_shorter (by omega) _ _
  · exact work_lt_of_shorter (by omega) _ _
  · exact Nat.add_lt_add_left (unseen_cons_lt fresh.2.1 fresh.2.2.1) _

/-- How the tree of a symbol over a span comes about. -/
inductive Rebuilds (chart : Chart) (grammar : Grammar) :
    Nat → Nat → List Symbol → Symbol → Tree → Prop where
  | leaf {position : Nat} {seen : List Symbol} {symbol : Symbol} :
      [chart.token position] ∈ grammar.bodiesOf symbol →
      Rebuilds chart grammar position position seen symbol
        (.leaf symbol (chart.token position))
  | pair {first last cut : Nat} {seen : List Symbol}
      {symbol left right : Symbol} :
      ¬chart.IsLeafAt grammar first last symbol →
      chart.cut? grammar first last symbol = some (cut, left, right) →
      Rebuilds chart grammar first cut [] left
        (chart.treeAt grammar first cut [] left) →
      Rebuilds chart grammar (cut + 1) last [] right
        (chart.treeAt grammar (cut + 1) last [] right) →
      Rebuilds chart grammar first last seen symbol
        (.pair symbol (chart.treeAt grammar first cut [] left)
          (chart.treeAt grammar (cut + 1) last [] right))
  | unit {first last : Nat} {seen : List Symbol} {symbol target : Symbol} :
      ¬chart.IsLeafAt grammar first last symbol →
      chart.cut? grammar first last symbol = none →
      IsFirst (fun target =>
          (chart.treeAt grammar first last (symbol :: seen) target).isBare =
            false)
        (chart.targets grammar first last (symbol :: seen) symbol) target →
      Rebuilds chart grammar first last (symbol :: seen) target
        (chart.treeAt grammar first last (symbol :: seen) target) →
      Rebuilds chart grammar first last seen symbol
        (.unit symbol
          (chart.treeAt grammar first last (symbol :: seen) target))
  | bare {first last : Nat} {seen : List Symbol} {symbol : Symbol} :
      ¬chart.IsLeafAt grammar first last symbol →
      chart.cut? grammar first last symbol = none →
      (∀ target ∈ chart.targets grammar first last (symbol :: seen) symbol,
        (chart.treeAt grammar first last (symbol :: seen) target).isBare =
          true) →
      Rebuilds chart grammar first last seen symbol (.bare symbol)

theorem rebuilds_treeAt (chart : Chart) (grammar : Grammar)
    (first last : Nat) (seen : List Symbol) (symbol : Symbol) :
    chart.Rebuilds grammar first last seen symbol
      (chart.treeAt grammar first last seen symbol) := by
  apply chart.treeAt_induction grammar
    (motive := fun first last seen symbol =>
      chart.Rebuilds grammar first last seen symbol
        (chart.treeAt grammar first last seen symbol))
  intro first last seen symbol parts units
  rw [treeAt_eq]
  split
  · rename_i isLeaf
    simp only [Bool.and_eq_true, beq_iff_eq, List.contains_iff_mem] at isLeaf
    obtain ⟨rfl, member⟩ := isLeaf
    exact .leaf member
  · rename_i isLeaf
    have notLeaf : ¬chart.IsLeafAt grammar first last symbol := by
      simpa [IsLeafAt] using isLeaf
    split
    · rename_i cut left right found
      obtain ⟨leftRebuilt, rightRebuilt⟩ := parts cut left right found
      exact .pair notLeaf found leftRebuilt rightRebuilt
    · rename_i noCut
      split
      · rename_i child chosen
        obtain ⟨before, target, after, split, isChild, earlierBare⟩ :=
          List.findSome?_eq_some_iff.mp chosen
        by_cases bare : (chart.treeAt grammar first last (symbol :: seen)
            target).isBare = true
        · simp [bare] at isChild
        · simp only [bare, Bool.false_eq_true, if_false,
            Option.some.injEq] at isChild
          subst isChild
          have isFirst : IsFirst (fun target => (chart.treeAt grammar first last
                (symbol :: seen) target).isBare = false)
              (chart.targets grammar first last (symbol :: seen) symbol)
              target := by
            refine ⟨before, after, split, ?_, Bool.eq_false_iff.mpr bare⟩
            simpa using earlierBare
          exact .unit notLeaf noCut isFirst (units target isFirst.mem)
      · rename_i allBare
        refine .bare notLeaf noCut ?_
        simpa [List.findSome?_eq_none_iff] using allBare

theorem treeAt_eq_bare_of_isBare {first last : Nat} {seen : List Symbol}
    {symbol : Symbol}
    (bare : (chart.treeAt grammar first last seen symbol).isBare = true) :
    chart.treeAt grammar first last seen symbol = .bare symbol := by
  generalize treeEq : chart.treeAt grammar first last seen symbol = tree
  have rebuilt := chart.rebuilds_treeAt grammar first last seen symbol
  rw [treeEq] at bare rebuilt
  cases rebuilt with
  | bare => rfl
  | _ => cases bare

/-- A tree is not bare if unit rules lead to a symbol that fits the span, past
the symbols that were seen. -/
theorem isBare_treeAt_eq_false_iff (chart : Chart) (grammar : Grammar)
    (first last : Nat) (seen : List Symbol) (symbol : Symbol) :
    (chart.treeAt grammar first last seen symbol).isBare = false ↔
      ReachesAvoiding (chart.StepsTo grammar first last)
        (chart.Fits grammar first last) seen symbol := by
  apply chart.treeAt_induction grammar
    (motive := fun first last seen symbol =>
      (chart.treeAt grammar first last seen symbol).isBare = false ↔
        ReachesAvoiding (chart.StepsTo grammar first last)
          (chart.Fits grammar first last) seen symbol)
  intro first last seen symbol _ units
  rw [ReachesAvoiding.iff_first_step]
  generalize treeEq : chart.treeAt grammar first last seen symbol = tree
  have rebuilt := chart.rebuilds_treeAt grammar first last seen symbol
  rw [treeEq] at rebuilt
  cases rebuilt with
  | leaf member =>
      exact iff_of_true rfl (.inl (.inl ⟨rfl, member⟩))
  | pair _ found =>
      exact iff_of_true rfl (.inl (.inr (by simp [found])))
  | @unit _ _ _ _ target _ _ isFirst _ =>
      obtain ⟨steps, notSeen⟩ := mem_targets_iff.mp isFirst.mem
      exact iff_of_true rfl (.inr ⟨target, steps, notSeen,
        (units target isFirst.mem).mp isFirst.fits_self⟩)
  | bare notLeaf noCut allBare =>
      refine iff_of_false (by simp [Tree.bare, Tree.isBare, Tree.isLeaf,
        Tree.children, Tree.word?]) ?_
      rintro ((isLeaf | found) | ⟨target, steps, notSeen, reached⟩)
      · exact notLeaf isLeaf
      · simp [noCut] at found
      · have member := mem_targets_iff.mpr ⟨steps, notSeen⟩
        have notBare := (units target member).mpr reached
        rw [allBare target member] at notBare
        cases notBare

end Chart

end SentenceChart
