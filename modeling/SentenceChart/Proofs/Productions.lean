import SentenceChart.Proofs.Diagnosis
import SentenceChart.Proofs.Decision
import SentenceChart.Proofs.Grammar
import SentenceChart.Proofs.Tree.Canonical

/-!
# What a verdict depends on

Grammars with the same productions prefer the same trees, because only the first
of equal bodies can be preferred.  Their charts are filled for the same
sentences, and then hold the same symbols.  So their verdicts agree, however the
rules of different heads are mixed and however often rules are repeated.
-/

namespace SentenceChart

namespace Grammar.SameProductions

variable {grammar other : Grammar} (same : grammar.SameProductions other)
  {symbol : Symbol} {sentence : List Symbol}

include same

theorem isFirst_bodiesOf_iff {fits fits' : List Symbol → Prop}
    (sameFits : ∀ body, fits body ↔ fits' body) {body : List Symbol} :
    IsFirst fits (grammar.bodiesOf symbol) body ↔
      IsFirst fits' (other.bodiesOf symbol) body := by
  rw [← IsFirst.eraseDups_iff, same.bodies_eq, IsFirst.eraseDups_iff]
  constructor
  · exact .congr fun body _ => sameFits body
  · exact .congr fun body _ => (sameFits body).symm

theorem hasWord_iff :
    grammar.HasWord symbol sentence ↔ other.HasWord symbol sentence := by
  simp only [HasWord, same.mem_rules_iff]

theorem splitsAs_iff {size : Nat} {body : List Symbol} :
    grammar.SplitsAs sentence size body ↔ other.SplitsAs sentence size body := by
  simp only [SplitsAs, same.derives_iff]

theorem hasCut_iff :
    grammar.HasCut symbol sentence ↔ other.HasCut symbol sentence := by
  simp only [HasCut, same.mem_bodiesOf_iff, same.splitsAs_iff]

theorem meets_iff :
    grammar.Meets sentence symbol ↔ other.Meets sentence symbol := by
  rw [Meets, Meets, same.hasWord_iff, same.hasCut_iff]

theorem unitStep_iff {target : Symbol} :
    grammar.UnitStep sentence symbol target ↔
      other.UnitStep sentence symbol target := by
  rw [UnitStep, UnitStep, same.mem_rules_iff, same.isTerminal_eq,
    same.derives_iff]

theorem leadsOn_iff {avoided body : List Symbol} :
    grammar.LeadsOn sentence avoided body ↔
      other.LeadsOn sentence avoided body := by
  have reaches (target : Symbol) :
      ReachesAvoiding (grammar.UnitStep sentence) (grammar.Meets sentence)
          avoided target ↔
        ReachesAvoiding (other.UnitStep sentence) (other.Meets sentence)
          avoided target :=
    ReachesAvoiding.congr (fun _ _ => same.unitStep_iff)
      (fun _ => same.meets_iff)
  simp only [LeadsOn, same.isTerminal_eq, same.derives_iff, reaches]

theorem canonical {seen : List Symbol} {tree : Tree}
    (canonical : grammar.Canonical symbol sentence seen tree) :
    other.Canonical symbol sentence seen tree := by
  induction canonical with
  | leaf member => exact .leaf (same.mem_rules_iff.mp member)
  | pair noWord smallest isFirst _ _ ihLeft ihRight =>
      refine .pair (mt same.hasWord_iff.mpr noWord) ?_
        ((same.isFirst_bodiesOf_iff fun _ => same.splitsAs_iff).mp isFirst)
        ihLeft ihRight
      intro smaller less body member splits
      exact smallest smaller less body (same.mem_bodiesOf_iff.mpr member)
        (same.splitsAs_iff.mpr splits)
  | unit noWord noCut isFirst _ ih =>
      exact .unit (mt same.hasWord_iff.mpr noWord)
        (mt same.hasCut_iff.mpr noCut)
        ((same.isFirst_bodiesOf_iff fun _ => same.leadsOn_iff).mp isFirst) ih

end Grammar.SameProductions

namespace Chart

theorem IsExact.canonical_tree {chart : Chart} {grammar : Grammar}
    (exact : chart.IsExact grammar) {symbol : Symbol}
    (member : symbol ∈ chart.whole) :
    grammar.Canonical symbol chart.tokens [] (chart.tree grammar symbol) := by
  rw [← words_whole]
  exact (chart.rebuilds_treeAt grammar _ _ _ _).canonical exact
    (Nat.zero_le _) chart.last_lt
    ((exact.isBare_tree_eq_false_iff symbol).mpr member)

section SameProductions

variable {grammar other : Grammar} (same : grammar.SameProductions other)
  {chart otherChart : Chart} (exact : chart.IsExact grammar)
  (otherExact : otherChart.IsExact other)
  (sameTokens : chart.tokens = otherChart.tokens)

include same exact otherExact sameTokens

theorem accepted_eq_of_sameProductions :
    chart.accepted = otherChart.accepted := by
  rw [Bool.eq_iff_iff, exact.accepted_iff, otherExact.accepted_iff,
    same.derives_iff, same.start_eq, sameTokens]

theorem startTree_eq_of_sameProductions (accepted : chart.accepted = true) :
    chart.startTree grammar = otherChart.startTree other := by
  have sameStart : otherChart.start = chart.start := by
    rw [exact.start_eq, otherExact.start_eq, same.start_eq]
  have otherAccepted : otherChart.accepted = true := by
    rwa [← accepted_eq_of_sameProductions same exact otherExact sameTokens]
  have canonical := same.canonical
    (exact.canonical_tree (List.contains_iff_mem.mp accepted))
  have otherCanonical :=
    otherExact.canonical_tree (List.contains_iff_mem.mp otherAccepted)
  -- Both trees are canonical for the other grammar, which leaves no choice.
  rw [sameTokens] at canonical
  rw [sameStart] at otherCanonical
  rw [startTree, startTree, sameStart]
  exact canonical.unique otherCanonical

end SameProductions

end Chart

namespace Grammar.SameProductions

variable {grammar other : Grammar} (same : grammar.SameProductions other)

include same

/-- A list of words is rejected by both grammars for the same reason, or has a
chart for both. -/
theorem chart?_cases (limit : Option Int) (tokens : List String) :
    (∃ rejection, (Checker.mk grammar limit).chart? tokens = .error rejection ∧
        (Checker.mk other limit).chart? tokens = .error rejection) ∨
      ∃ chart otherChart, (Checker.mk grammar limit).chart? tokens = .ok chart ∧
        (Checker.mk other limit).chart? tokens = .ok otherChart := by
  simp only [Checker.chart?]
  rw [Grammar.chart?, Grammar.chart?]
  by_cases noTokens : tokens = []
  · rw [dif_pos noTokens, dif_pos noTokens]
    exact .inl ⟨_, rfl, rfl⟩
  · rw [dif_neg noTokens, dif_neg noTokens]
    cases exceeded? limit tokens.length with
    | some most => exact .inl ⟨_, rfl, rfl⟩
    | none =>
        simp only [same.unknownWord?_eq]
        cases other.unknownWord? (tokens.map Sentence.lowercase) with
        | some unknown => exact .inl ⟨_, rfl, rfl⟩
        | none => exact .inr ⟨_, _, rfl, rfl⟩

theorem checkTokens_eq (limit : Option Int) (tokens : List String) :
    (Checker.mk grammar limit).checkTokens tokens =
      (Checker.mk other limit).checkTokens tokens := by
  rcases same.chart?_cases limit tokens with
    ⟨rejection, rejected, otherRejected⟩ | ⟨chart, otherChart, filled,
      otherFilled⟩
  · rw [Checker.checkTokens_of_error rejected,
      Checker.checkTokens_of_error otherRejected]
  · have exact := isExact_of_chart? filled
    have otherExact := isExact_of_chart? otherFilled
    have sameTokens : chart.tokens = otherChart.tokens := by
      rw [tokens_of_chart? filled, tokens_of_chart? otherFilled]
    rw [Checker.checkTokens_of_ok filled,
      Checker.checkTokens_of_ok otherFilled,
      ← Chart.accepted_eq_of_sameProductions same exact otherExact sameTokens]
    by_cases accepted : chart.accepted = true
    · rw [if_pos accepted, if_pos accepted]
      exact congrArg Verdict.valid (Chart.startTree_eq_of_sameProductions same
        exact otherExact sameTokens accepted)
    · rw [if_neg accepted, if_neg accepted, Refusal.ofChart, Refusal.ofChart,
        exact.faultPosition_eq_zero, otherExact.faultPosition_eq_zero,
        exact.diagnosis_congr otherExact sameTokens
          (fun _ _ => same.derives_iff)]

theorem check_eq (limit : Option Int) (raw : Option String) :
    (Checker.mk grammar limit).check raw =
      (Checker.mk other limit).check raw := by
  rw [Checker.check, Checker.check, Checker.examine, Checker.examine]
  cases Sentence.words? raw with
  | error rejection => rfl
  | ok tokens => exact same.checkTokens_eq limit tokens

end Grammar.SameProductions

/-- Only the distinct bodies of each symbol matter, in their order.  The rules of
different heads may be mixed and repeated in any way. -/
theorem Checker.check_eq_of_bodiesOf_eq {rules others : List Rule}
    {start : Symbol} {grammar other : Grammar}
    (built : Grammar.ofRules? rules start = .ok grammar)
    (otherBuilt : Grammar.ofRules? others start = .ok other)
    (bodies : ∀ symbol,
      (grammar.bodiesOf symbol).eraseDups = (other.bodiesOf symbol).eraseDups)
    (limit : Option Int) :
    (∀ raw, (Checker.mk grammar limit).check raw =
        (Checker.mk other limit).check raw) ∧
      ∀ tokens, (Checker.mk grammar limit).checkTokens tokens =
        (Checker.mk other limit).checkTokens tokens := by
  have same : grammar.SameProductions other :=
    { start_eq := by
        rw [(Grammar.ofRules?_eq_ok_iff.mp built).1,
          (Grammar.ofRules?_eq_ok_iff.mp otherBuilt).1]
      bodies_eq := bodies }
  exact ⟨same.check_eq limit, same.checkTokens_eq limit⟩

/-- Rules of the cyclic grammar in another order, two of them repeated. -/
def Grammar.mixedRules : List Rule :=
  [⟨"A", ["S"]⟩, ⟨"S", ["A"]⟩, ⟨"A", ["S"]⟩, ⟨"A", ["go"]⟩, ⟨"S", ["S", "A"]⟩,
    ⟨"S", ["A"]⟩]

/-- The grammar of the mixed rules. -/
def Grammar.mixed : Grammar where
  start := "S"
  rules := Rule.grouped mixedRules
  grouped_rules := by decide
  start_mem := by decide
  isNearNormal_of_mem := by decide

theorem Grammar.bodiesOf_mixed (symbol : Symbol) :
    (cyclic.bodiesOf symbol).eraseDups = (mixed.bodiesOf symbol).eraseDups := by
  by_cases isS : symbol = "S"
  · rw [isS]
    decide
  · by_cases isA : symbol = "A"
    · rw [isA]
      decide
    · have noRule (rules : List Rule)
          (heads : ∀ rule ∈ rules, rule.head = "S" ∨ rule.head = "A") :
          rules.filter (·.head == symbol) = [] := by
        rw [List.filter_eq_nil_iff]
        intro rule member
        rcases heads rule member with headEq | headEq
        · simpa [headEq] using Ne.symm isS
        · simpa [headEq] using Ne.symm isA
      rw [bodiesOf, bodiesOf, noRule cyclic.rules (by decide),
        noRule mixed.rules (by decide)]

theorem Checker.check_eq_of_bodiesOf_eq_mixed :
    Grammar.ofRules? Grammar.cyclic.rules "S" = .ok Grammar.cyclic ∧
      Grammar.ofRules? Grammar.mixedRules "S" = .ok Grammar.mixed ∧
      Grammar.cyclic.rules ≠ Grammar.mixed.rules ∧
      (Checker.mk Grammar.cyclic none).check (some "Go GO") =
        (Checker.mk Grammar.mixed none).check (some "Go GO") := by
  have built : Grammar.ofRules? Grammar.cyclic.rules "S" =
      .ok Grammar.cyclic :=
    Grammar.ofRules?_eq_ok_iff.mpr ⟨rfl, Grammar.cyclic.grouped_rules.symm⟩
  have otherBuilt : Grammar.ofRules? Grammar.mixedRules "S" =
      .ok Grammar.mixed :=
    Grammar.ofRules?_eq_ok_iff.mpr ⟨rfl, rfl⟩
  have verdicts := check_eq_of_bodiesOf_eq built otherBuilt
    Grammar.bodiesOf_mixed none
  exact ⟨built, otherBuilt, by decide, verdicts.1 (some "Go GO")⟩

end SentenceChart
