import Mathlib.Data.List.Basic
import SentenceChart.Grammar.Basic

/-!
# Groups of rules

A grouped list has one group for each head, in the order of the heads, and a
group has the rules of its head in the order in which they were given
(`grouped_eq_flatMap`).  Rules that are chosen from a grouped list therefore
have their heads in the order of all heads (`heads_flatMap`).  So the two ways
to look up the rules of a grammar, by head and by body, tell the same.
-/

namespace SentenceChart

namespace Rule

/-- An induction that takes away a rule together with the others of its head. -/
theorem headInduction {motive : List Rule → Prop} (nil : motive [])
    (cons : ∀ first rest, motive (rest.filter (·.head != first.head)) →
      motive (first :: rest)) (rules : List Rule) :
    motive rules := by
  match rules with
  | [] => exact nil
  | first :: rest => exact cons first rest (headInduction nil cons _)
termination_by rules.length
decreasing_by exact Nat.lt_succ_of_le (List.length_filter_le _ _)

theorem heads_cons (first : Rule) (rest : List Rule) :
    heads (first :: rest) =
      first.head :: heads (rest.filter (·.head != first.head)) := by
  rw [heads, List.map_cons, List.eraseDups_cons, heads, List.filter_map]
  rfl

theorem nodup_heads (rules : List Rule) : (heads rules).Nodup := by
  induction rules using headInduction with
  | nil => exact List.nodup_nil
  | cons first rest ih =>
      rw [heads_cons, List.nodup_cons]
      refine ⟨?_, ih⟩
      simp [mem_heads_iff]

private theorem grouped_eq_self {symbol : Symbol} {rules : List Rule}
    (same : ∀ rule ∈ rules, rule.head = symbol) : grouped rules = rules := by
  induction rules with
  | nil => rfl
  | cons first rest ih =>
      obtain ⟨firstSame, restSame⟩ := List.forall_mem_cons.mp same
      have kept : rest.filter (·.head == first.head) = rest := by
        apply List.filter_eq_self.mpr
        intro rule member
        simp [firstSame, restSame rule member]
      have dropped : rest.filter (·.head != first.head) = [] := by
        apply List.filter_eq_nil_iff.mpr
        intro rule member
        simp [firstSame, restSame rule member]
      rw [grouped, ih restSame, kept, dropped, List.append_nil]

theorem filter_grouped_head (symbol : Symbol) (rules : List Rule) :
    (grouped rules).filter (·.head == symbol) =
      rules.filter (·.head == symbol) := by
  rw [← grouped_filter_head (· == symbol)]
  apply grouped_eq_self
  intro rule member
  exact eq_of_beq (List.mem_filter.mp member).2

/-- The groups come in the order of the heads, and each group has the order of
the rules. -/
theorem grouped_eq_flatMap (rules : List Rule) :
    grouped rules =
      (heads rules).flatMap fun head => rules.filter (·.head == head) := by
  induction rules using headInduction with
  | nil => rfl
  | cons first rest ih =>
      have others : (grouped rest).filter (·.head != first.head) =
          (heads (rest.filter (·.head != first.head))).flatMap fun head =>
            (first :: rest).filter (·.head == head) := by
        rw [← grouped_filter_head (· != first.head), ih]
        apply List.flatMap_congr
        intro head member
        have different : head ≠ first.head := by
          obtain ⟨rule, kept, rfl⟩ := mem_heads_iff.mp member
          simpa using (List.mem_filter.mp kept).2
        rw [List.filter_cons_of_neg (by simpa using different.symm),
          List.filter_filter]
        apply List.filter_congr
        intro rule _
        by_cases same : rule.head = head <;> simp [same, different]
      rw [grouped, filter_grouped_head, others, heads_cons, List.flatMap_cons]
      simp

theorem head_ne_of_mem_flatMap {symbols : List Symbol} {symbol : Symbol}
    (fresh : symbol ∉ symbols) {group : Symbol → List Rule}
    (own : ∀ symbol, ∀ rule ∈ group symbol, rule.head = symbol) :
    ∀ rule ∈ symbols.flatMap group, rule.head ≠ symbol := by
  intro rule member
  obtain ⟨other, otherMember, ofOther⟩ := List.mem_flatMap.mp member
  rw [own other rule ofOther]
  rintro rfl
  exact fresh otherMember

/-- Groups of their own heads have the heads of those that are not empty. -/
theorem heads_flatMap {symbols : List Symbol} (distinct : symbols.Nodup)
    {group : Symbol → List Rule}
    (own : ∀ symbol, ∀ rule ∈ group symbol, rule.head = symbol) :
    heads (symbols.flatMap group) =
      symbols.filter fun symbol => !(group symbol).isEmpty := by
  induction symbols with
  | nil => rfl
  | cons symbol more ih =>
      obtain ⟨fresh, distinctMore⟩ := List.nodup_cons.mp distinct
      rw [List.flatMap_cons]
      cases groupEq : group symbol with
      | nil => simp [groupEq, ih distinctMore]
      | cons first rest =>
          have inGroup := own symbol
          rw [groupEq] at inGroup
          obtain ⟨rfl, restOwn⟩ := List.forall_mem_cons.mp inGroup
          have dropped : rest.filter (·.head != first.head) = [] := by
            apply List.filter_eq_nil_iff.mpr
            intro rule member
            simp [restOwn rule member]
          have kept : (more.flatMap group).filter (·.head != first.head) =
              more.flatMap group := by
            apply List.filter_eq_self.mpr
            intro rule member
            exact bne_iff_ne.mpr (head_ne_of_mem_flatMap fresh own rule member)
          rw [List.cons_append, heads_cons, List.filter_append, dropped, kept,
            List.nil_append, ih distinctMore, List.filter_cons_of_pos]
          simp [groupEq]

theorem heads_filter_grouped (keep : Rule → Bool) (rules : List Rule) :
    heads ((grouped rules).filter keep) =
      (heads rules).filter fun head =>
        !((rules.filter (·.head == head)).filter keep).isEmpty := by
  rw [grouped_eq_flatMap, List.filter_flatMap,
    heads_flatMap (nodup_heads rules)]
  intro head rule chosen
  have inGroup := (List.mem_filter.mp chosen).1
  exact eq_of_beq (List.mem_filter.mp inGroup).2

end Rule

namespace Grammar

/-- The heads of the rules with one body are those nonterminals that have the
body among theirs, each of them once and in the order of all nonterminals. -/
theorem headsOf_eq_filter (grammar : Grammar) (body : List Symbol) :
    grammar.headsOf body =
        grammar.nonterminals.filter (body ∈ grammar.bodiesOf ·) ∧
      (grammar.headsOf body).Nodup ∧
      (∀ head, head ∈ grammar.headsOf body ↔
        (⟨head, body⟩ : Rule) ∈ grammar.rules) ∧
      ((∀ rule ∈ grammar.rules, rule.body ≠ body) →
        grammar.headsOf body = []) := by
  refine ⟨?_, Rule.nodup_heads _, fun _ => mem_headsOf_iff, ?_⟩
  · have chosen := Rule.heads_filter_grouped (·.body == body) grammar.rules
    rw [grammar.grouped_rules] at chosen
    rw [headsOf, chosen]
    apply List.filter_congr
    intro head nonterminal
    have sameRules : head ∈ grammar.headsOf body ↔
        body ∈ grammar.bodiesOf head := by
      rw [mem_headsOf_iff, mem_bodiesOf_iff]
    rw [headsOf, chosen, List.mem_filter] at sameRules
    rw [Bool.eq_iff_iff, decide_eq_true_iff, ← sameRules]
    exact (and_iff_right nonterminal).symm
  · intro noRule
    apply List.eq_nil_iff_forall_not_mem.mpr
    intro head member
    exact noRule _ (mem_headsOf_iff.mp member) rfl

end Grammar

end SentenceChart
