import Mathlib.Data.List.Basic
import SentenceChart.Proofs.Grouping
import SentenceChart.Proofs.Productions

/-!
# The rules of a grammar as a stable grouping

A stable grouping has the given rules, each as often as before, those of one
head next to each other; the heads come in the order of their first rule, and
the rules of one head stay in their order.  There is exactly one such list
(`isStableGrouping_iff`), so a grammar keeps all that its rules say, and its own
rules make the same grammar again.
-/

namespace SentenceChart

namespace Rule

/-- A rule between two rules of one head has this head, too. -/
def Contiguous (rules : List Rule) : Prop :=
  ∀ before between after, [before, between, after].Sublist rules →
    before.head = after.head → between.head = before.head

/-- The rules, those of one head next to each other, in a stable order. -/
structure IsStableGrouping (rules groups : List Rule) : Prop where
  /-- No rule is lost, added or counted differently. -/
  perm : groups.Perm rules
  /-- The rules of one head are next to each other. -/
  contiguous : Contiguous groups
  /-- The heads come in the order in which they appear first. -/
  heads_eq : heads groups = heads rules
  /-- The rules of one head keep their order. -/
  filter_eq : ∀ head,
    groups.filter (·.head == head) = rules.filter (·.head == head)

theorem grouped_perm (rules : List Rule) : (grouped rules).Perm rules := by
  induction rules with
  | nil => exact .nil
  | cons first rest ih =>
      have split := List.filter_append_perm (·.head == first.head)
        (grouped rest)
      exact (split.trans ih).cons first

theorem heads_grouped (rules : List Rule) :
    heads (grouped rules) = heads rules := by
  have chosen := heads_filter_grouped (fun _ => true) rules
  rw [List.filter_true, List.filter_eq_self.mpr] at chosen
  · exact chosen
  · intro head member
    obtain ⟨rule, given, rfl⟩ := mem_heads_iff.mp member
    simp only [List.filter_true, Bool.not_eq_true', List.isEmpty_eq_false_iff]
    exact List.ne_nil_of_mem (List.mem_filter.mpr ⟨given, beq_self_eq_true _⟩)

theorem Contiguous.group_append {symbol : Symbol} {group rules : List Rule}
    (contiguous : Contiguous rules)
    (own : ∀ rule ∈ group, rule.head = symbol)
    (apart : ∀ rule ∈ rules, rule.head ≠ symbol) :
    Contiguous (group ++ rules) := by
  intro before between after taken same
  obtain ⟨inGroup, inRules, split, groupPart, rulesPart⟩ :=
    List.sublist_append_iff.mp taken
  have ofGroup : ∀ rule ∈ inGroup, rule.head = symbol :=
    fun rule member => own rule (groupPart.subset member)
  cases inGroup with
  | nil =>
      rw [List.nil_append] at split
      rw [← split] at rulesPart
      exact contiguous before between after rulesPart same
  | cons rule others =>
      rw [List.cons_append] at split
      obtain ⟨rfl, splitTail⟩ := List.cons.inj split
      have beforeHead := ofGroup before List.mem_cons_self
      -- The last rule has the head of the first, so it is in the group, and
      -- with it all that stands before it.
      have noRules : inRules = [] := by
        by_contra someRules
        have last := congrArg List.getLast? splitTail
        rw [List.getLast?_append_of_ne_nil _ someRules] at last
        have afterMember := List.mem_of_getLast? last.symm
        exact apart after (rulesPart.subset afterMember)
          (same.symm.trans beforeHead)
      rw [noRules, List.append_nil] at splitTail
      rw [beforeHead]
      exact ofGroup between (by simp [← splitTail])

theorem contiguous_flatMap {symbols : List Symbol} (distinct : symbols.Nodup)
    {group : Symbol → List Rule}
    (own : ∀ symbol, ∀ rule ∈ group symbol, rule.head = symbol) :
    Contiguous (symbols.flatMap group) := by
  induction symbols with
  | nil =>
      intro before between after taken
      cases taken
  | cons symbol more ih =>
      obtain ⟨fresh, distinctMore⟩ := List.nodup_cons.mp distinct
      rw [List.flatMap_cons]
      exact (ih distinctMore).group_append (own symbol)
        (head_ne_of_mem_flatMap fresh own)

theorem contiguous_grouped (rules : List Rule) :
    Contiguous (grouped rules) := by
  rw [grouped_eq_flatMap]
  apply contiguous_flatMap (nodup_heads rules)
  intro head rule member
  exact eq_of_beq (List.mem_filter.mp member).2

private theorem filter_append_filter_not {rules : List Rule}
    {keep : Rule → Bool}
    (early : ∀ before after, [before, after].Sublist rules →
      keep after = true → keep before = true) :
    rules.filter keep ++ rules.filter (!keep ·) = rules := by
  induction rules with
  | nil => rfl
  | cons first rest ih =>
      have restEarly := ih fun before after taken =>
        early before after (taken.cons first)
      by_cases kept : keep first = true
      · rw [List.filter_cons_of_pos kept,
          List.filter_cons_of_neg (by simp [kept]), List.cons_append,
          restEarly]
      · have noneKept : rest.filter keep = [] := by
          rw [List.filter_eq_nil_iff]
          intro rule member keptLater
          have pair := (List.singleton_sublist.mpr member).cons_cons first
          exact kept (early first rule pair keptLater)
        rw [noneKept, List.nil_append] at restEarly
        rw [List.filter_cons_of_neg kept, noneKept, List.nil_append,
          List.filter_cons_of_pos (by simp [kept]), restEarly]

theorem grouped_of_contiguous {rules : List Rule}
    (contiguous : Contiguous rules) : grouped rules = rules := by
  induction rules with
  | nil => rfl
  | cons first rest ih =>
      have restContiguous : Contiguous rest :=
        fun before between after taken =>
          contiguous before between after (taken.cons first)
      have early : ∀ before after, [before, after].Sublist rest →
          (after.head == first.head) = true →
            (before.head == first.head) = true := by
        intro before after taken sameHead
        apply beq_iff_eq.mpr
        exact contiguous first before after (taken.cons_cons first)
          (eq_of_beq sameHead).symm
      have unmoved := filter_append_filter_not early
      rw [grouped, ih restContiguous]
      exact congrArg (first :: ·) unmoved

/-- Grouping gives the stable grouping, and there is no other. -/
theorem isStableGrouping_iff {rules groups : List Rule} :
    IsStableGrouping rules groups ↔ groups = grouped rules := by
  constructor
  · intro stable
    calc
      groups = grouped groups := (grouped_of_contiguous stable.contiguous).symm
      _ = (heads groups).flatMap fun head =>
            groups.filter (·.head == head) := grouped_eq_flatMap groups
      _ = (heads rules).flatMap fun head =>
            rules.filter (·.head == head) := by
          rw [stable.heads_eq]
          exact List.flatMap_congr fun head _ => stable.filter_eq head
      _ = grouped rules := (grouped_eq_flatMap rules).symm
  · rintro rfl
    exact
      { perm := grouped_perm rules
        contiguous := contiguous_grouped rules
        heads_eq := heads_grouped rules
        filter_eq := fun head => filter_grouped_head head rules }

end Rule

namespace Grammar

/-- The rules of a grammar are the stable grouping of the rules that it was made
from, and the nonterminals come in the order of their first rule.  The rules of a
grammar make the same grammar again. -/
theorem rules_isStableGrouping {rules : List Rule} {start : Symbol}
    {grammar : Grammar} (built : ofRules? rules start = .ok grammar) :
    Rule.IsStableGrouping rules grammar.rules ∧
      (∀ groups, Rule.IsStableGrouping rules groups →
        groups = grammar.rules) ∧
      grammar.nonterminals = (rules.map Rule.head).eraseDups ∧
      ofRules? grammar.rules grammar.start = .ok grammar := by
  obtain ⟨_, rulesEq⟩ := ofRules?_eq_ok_iff.mp built
  refine ⟨Rule.isStableGrouping_iff.mpr rulesEq, ?_, ?_, ?_⟩
  · intro groups stable
    rw [rulesEq]
    exact Rule.isStableGrouping_iff.mp stable
  · rw [nonterminals, rulesEq, Rule.heads_grouped]
    rfl
  · exact ofRules?_eq_ok_iff.mpr ⟨rfl, grammar.grouped_rules.symm⟩

/-- The rules of two heads are mixed and two of them are repeated. -/
theorem rules_isStableGrouping_mixed :
    ofRules? mixedRules "S" = .ok mixed ∧
      mixed.rules =
        [⟨"A", ["S"]⟩, ⟨"A", ["S"]⟩, ⟨"A", ["go"]⟩, ⟨"S", ["A"]⟩,
          ⟨"S", ["S", "A"]⟩, ⟨"S", ["A"]⟩] ∧
      Rule.IsStableGrouping mixedRules mixed.rules ∧
      mixed.nonterminals = ["A", "S"] ∧
      ofRules? mixed.rules "S" = .ok mixed := by
  have built : ofRules? mixedRules "S" = .ok mixed :=
    ofRules?_eq_ok_iff.mpr ⟨rfl, rfl⟩
  obtain ⟨stable, _, nonterminals, again⟩ := rules_isStableGrouping built
  refine ⟨built, by decide, stable, ?_, again⟩
  rw [nonterminals]
  decide

end Grammar

end SentenceChart
