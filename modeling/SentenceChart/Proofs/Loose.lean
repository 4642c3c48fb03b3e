import SentenceChart.Loose.Checker
import SentenceChart.Proofs.Chart.Admission
import SentenceChart.Proofs.Construction
import SentenceChart.Proofs.Renaming
import SentenceChart.Proofs.Tree.Derivation

/-!
# Values that are texts

Rules, sentences and charts that are given as values mean what they mean as texts
if all values are texts and the limit is an integer: the same rules make a
grammar, the same sentences are valid, and the same trees are rebuilt.  The keys
of texts keep them apart, so the grammar and the chart of keys are renamed ones.
-/

namespace SentenceChart

namespace Datum

/-- The symbol that stands for a text. -/
def textKey (word : String) : Symbol :=
  key (.text word)

theorem textKey_injective : Function.Injective textKey :=
  fun _ _ => key_text_inj

theorem texts?_list (words : List String) :
    texts? (.list (words.map .text)) = .ok words := by
  rw [texts?, items?]
  simp only [mapM_text?]

theorem shown?_integer_of_lt {number : Int}
    (small : number.natAbs < Text.numeralBound) :
    shown? (.integer number) = .ok (Text.showInt number) := by
  rw [shown?, isWritable, Text.numeral?_of_lt small]
  rfl

theorem shown?_integer_of_le {number : Int}
    (large : Text.numeralBound ≤ number.natAbs) :
    shown? (.integer number) = .error .tooManyDigits := by
  rw [shown?, isWritable, Text.numeral?_of_le large]
  rfl

/-- A sentence, which may be missing, as a value. -/
def ofSentence : Option String → Datum
  | none => .missing
  | some raw => .text raw

theorem sentence?_ofSentence (raw : Option String) :
    (ofSentence raw).sentence? = .ok raw := by
  cases raw <;> rfl

/-- The limit on the number of words as a value. -/
def ofLimit : Option Int → Datum
  | none => .missing
  | some most => .integer most

end Datum

theorem Grammar.length_eq_of_tooLong {grammar : Grammar} {limit : Option Int}
    {tokens : List String} {length most : Int}
    (rejected : grammar.chart? limit tokens = .error (.tooLong length most)) :
    length = tokens.length := by
  rw [chart?] at rejected
  split at rejected
  · cases rejected
  · split at rejected
    · cases rejected
      rfl
    · simp only at rejected
      split at rejected <;> cases rejected

namespace LooseRule

variable {rules : List Rule}

theorem keyed_ofRule (rule : Rule) :
    (ofRule rule).keyed = rule.rename Datum.textKey := by
  rw [keyed, ofRule, List.map_map]
  rfl

theorem heads_map_ofRule (rules : List Rule) :
    heads (rules.map ofRule) = Rule.heads rules := by
  rw [heads, List.map_map]
  rfl

theorem grouped_map_ofRule (rules : List Rule) :
    grouped (rules.map ofRule) = (Rule.grouped rules).map ofRule := by
  rw [grouped, heads_map_ofRule, Rule.grouped_eq_flatMap, List.map_flatMap]
  congr 1
  funext head
  rw [List.filter_map]
  rfl

theorem map_standIn_ofRule (rules : List Rule) :
    (rules.map ofRule).map standIn = rules := by
  rw [List.map_map]
  simp [Function.comp_def, standIn_ofRule]

theorem map_keyed_ofRule (rules : List Rule) :
    (rules.map ofRule).map keyed = rules.map (Rule.rename Datum.textKey) := by
  rw [List.map_map]
  congr 1
  funext rule
  exact keyed_ofRule rule

theorem isSound_ofRule (rule : Rule) : (ofRule rule).isSound = true := by
  rw [isSound, rule?_ofRule]
  rfl

end LooseRule

namespace LooseGrammar

def ofGrammar (grammar : Grammar) : LooseGrammar where
  rules := grammar.rules.map LooseRule.ofRule
  grammar := grammar
  keyed := grammar.rename Datum.textKey Datum.textKey_injective

theorem ruleError?_map_ofRule (rules : List Rule) :
    ruleError? (rules.map LooseRule.ofRule) =
      ((Rule.grouped rules).find?
        (!·.isNearNormal (Rule.heads (Rule.grouped rules)))).map
          fun rule => .grammar rule.error := by
  rw [ruleError?, LooseRule.grouped_map_ofRule, LooseRule.heads_map_ofRule,
    List.find?_map, Option.map_map, Rule.heads_grouped]
  simp only [Function.comp_def, LooseRule.isSound_ofRule,
    LooseRule.standIn_ofRule, Bool.not_true, Bool.false_or, if_true]

/-- What makes a grammar of texts makes it as values. -/
theorem ofRules?_of_ok {rules : List Rule} {start : Symbol} {grammar : Grammar}
    (built : Grammar.ofRules? rules start = .ok grammar) :
    ofRules? (rules.map LooseRule.ofRule) (.text start) =
      .ok (ofGrammar grammar) := by
  obtain ⟨start_mem, fits⟩ := Grammar.exists_ofRules?_iff.mp ⟨grammar, built⟩
  have noMisfit : (Rule.grouped rules).find?
      (!·.isNearNormal (Rule.heads (Rule.grouped rules))) = none := by
    apply List.find?_eq_none.mpr
    intro rule member
    have fit := fits rule (Rule.mem_grouped_iff.mp member)
    simpa [Rule.isNearNormal_iff, Rule.fits_grouped_iff] using fit
  have again : Grammar.ofRules? (Rule.grouped rules) start = .ok grammar := by
    rw [Grammar.ofRules?_eq_ok_iff, Rule.grouped_grouped]
    exact Grammar.ofRules?_eq_ok_iff.mp built
  have keyed := Grammar.ofRules?_rename Datum.textKey_injective again
  have rulesEq := (Grammar.ofRules?_eq_ok_iff.mp built).2
  rw [ofRules?]
  simp only [LooseRule.heads_map_ofRule, ruleError?_map_ofRule, noMisfit,
    LooseRule.grouped_map_ofRule, LooseRule.map_standIn_ofRule,
    LooseRule.map_keyed_ofRule, List.contains_iff_mem.mpr start_mem, again]
  rw [Datum.textKey] at keyed
  simp [keyed, ofGrammar, rulesEq]

theorem typed?_ofGrammar (grammar : Grammar) :
    (ofGrammar grammar).typed? = .ok grammar := by
  simp [typed?, ofGrammar, LooseRule.rule?_ofRule]

theorem ofRules?_of_error {rules : List Rule} {start : Symbol}
    {error : GrammarError}
    (failed : Grammar.ofRules? rules start = .error error) :
    ofRules? (rules.map LooseRule.ofRule) (.text start) =
      .error (.grammar error) := by
  rcases Grammar.ofRules?_eq_error_iff.mp failed with
    ⟨missing, rfl⟩ | ⟨start_mem, rule, misfit, rfl⟩
  · simp [ofRules?, LooseRule.heads_map_ofRule, missing]
  · simp [ofRules?, LooseRule.heads_map_ofRule, start_mem,
      ruleError?_map_ofRule, Rule.find?_faulty_iff.mpr misfit]

end LooseGrammar

namespace LooseChecker

def ofChecker (checker : Checker) : LooseChecker where
  grammar := .ofGrammar checker.grammar
  limit := .ofLimit checker.limit

variable (checker : Checker)

theorem isExceeded?_ofChecker (length : Nat) :
    (ofChecker checker).isExceeded? length =
      .ok (Grammar.exceeded? checker.limit length).isSome := by
  rw [isExceeded?, ofChecker]
  cases checker.limit with
  | none => rfl
  | some most =>
      simp only [Datum.ofLimit, Datum.isBelow?_integer, Grammar.exceeded?,
        Option.filter_some]
      by_cases exceeds : most < length <;> simp [exceeds]

/-- The words have a chart as values if they have one as texts, and are rejected
for the same reason. -/
theorem chart?_ofChecker (tokens : List String) :
    (ofChecker checker).chart? (.list (tokens.map .text)) =
      .ok ((checker.chart? tokens).mapError .ofRejection) := by
  cases tokens with
  | nil => rfl
  | cons first rest =>
      have nonempty : first :: rest ≠ [] := List.cons_ne_nil first rest
      have items : ((first :: rest).map Datum.text).length =
          (first :: rest).length := List.length_map _
      rw [chart?, Checker.chart?, Grammar.chart?, dif_neg nonempty]
      simp only [Datum.isEmpty, Datum.items?, items, isExceeded?_ofChecker,
        Datum.texts?_list]
      cases exceeded :
          Grammar.exceeded? checker.limit (first :: rest).length with
      | some most =>
          obtain ⟨limited, _⟩ := Grammar.exceeded?_eq_some_iff.mp exceeded
          simp only [ofChecker, limited]
          rfl
      | none => rfl

/-- What is told about an examination of texts does not depend on the limit. -/
theorem judged_ofChecker (examination : Examination) :
    (ofChecker checker).judged examination =
      (LooseVerdict.ofVerdict? (checker.judge examination)).map
        fun verdict => (verdict, checker.records examination) := by
  cases examination <;> rfl

theorem rejected_ofRejection {rejection : Rejection}
    (few : ∀ length limit, rejection = .tooLong length limit →
      length.natAbs < Text.numeralBound) :
    rejected (.ofRejection rejection) =
      (LooseVerdict.ofVerdict? (.ofRejection rejection)).map
        fun verdict => (verdict, checker.records (.rejected rejection)) := by
  cases rejection with
  | empty message => rfl
  | unknownWord word position => rfl
  | tooLong length limit =>
      have length? := Datum.shown?_integer_of_lt (few length limit rfl)
      rcases Nat.lt_or_ge limit.natAbs Text.numeralBound with short | long
      · rw [Verdict.ofRejection_tooLong_of_lt length short, rejected,
          LooseRefusal.ofRejection?, LooseRejection.ofRejection,
          LooseRejection.message?, length?, Datum.shown?_integer_of_lt short,
          Checker.records, Rejection.message?, Text.numeral?_of_lt short]
        rfl
      · rw [Verdict.ofRejection_tooLong_of_le length long, rejected,
          LooseRefusal.ofRejection?, LooseRejection.ofRejection,
          LooseRejection.message?, length?, Datum.shown?_integer_of_le long]
        rfl

/-- The verdict on texts and the records about it are those of the checker of
texts; a refusal that cannot be written is a fault. -/
theorem checkTokens_ofChecker {tokens : List String}
    (few : tokens.length < Text.numeralBound) :
    (ofChecker checker).checkTokens (.list (tokens.map .text)) =
      (LooseVerdict.ofVerdict? (checker.checkTokens tokens)).map fun verdict =>
        (verdict, checker.records (checker.examineTokens tokens)) := by
  rw [checkTokens, chart?_ofChecker, Checker.checkTokens,
    Checker.examineTokens]
  cases filled : checker.chart? tokens with
  | ok chart => exact judged_ofChecker checker (.charted chart)
  | error rejection =>
      apply rejected_ofRejection
      rintro length limit rfl
      rw [Grammar.length_eq_of_tooLong filled]
      exact few

/-- The verdict on a text, which may be missing, is that of the checker of
texts. -/
theorem check_ofChecker {raw : Option String}
    (few : ∀ tokens, Sentence.words? raw = .ok tokens →
      tokens.length < Text.numeralBound) :
    (ofChecker checker).check (.ofSentence raw) =
      (LooseVerdict.ofVerdict? (checker.check raw)).map fun verdict =>
        (verdict, checker.records (checker.examine raw)) := by
  rw [check, Datum.sentence?_ofSentence, Checker.check, Checker.examine]
  dsimp only
  cases words : Sentence.words? raw with
  | error rejection => exact judged_ofChecker checker (.blank rejection)
  | ok tokens => exact checkTokens_ofChecker checker (few tokens words)

end LooseChecker

namespace LooseChart

theorem keys_ofChart (chart : Chart) :
    (ofChart chart).keys = chart.rename Datum.textKey :=
  rfl

theorem accepted_ofChart (chart : Chart) :
    (ofChart chart).accepted = .ok chart.accepted := by
  rw [accepted, keys_ofChart, chart.accepted_rename Datum.textKey_injective]
  rfl

theorem shownWord_ofChart (chart : Chart) {position : Nat}
    (inside : position < chart.length) :
    (ofChart chart).shownWord position = some (chart.token position) := by
  rw [Chart.length] at inside
  simp [shownWord, ofChart, Chart.token, inside, Datum.shown]

theorem tree_ofChart (chart : Chart) (grammar : Grammar) (symbol : Symbol) :
    (ofChart chart).tree (.ofGrammar grammar) (.text symbol) =
      .ok (chart.tree grammar symbol) := by
  have positive : 0 < chart.length :=
    List.length_pos_iff.mpr chart.tokens_ne_nil
  have shown : (ofChart chart).tree (.ofGrammar grammar) (.text symbol) =
      .ok (((chart.rename Datum.textKey).treeShowing
        (grammar.rename Datum.textKey Datum.textKey_injective)
        (ofChart chart).shownWord 0 ((chart.rename Datum.textKey).length - 1)
        [] (Datum.textKey symbol)).relabel
          fun key => (Datum.textOfKey? key).getD symbol) :=
    rfl
  have renamed :
      (chart.rename Datum.textKey).treeShowing
          (grammar.rename Datum.textKey Datum.textKey_injective)
          (ofChart chart).shownWord 0 (chart.length - 1) []
          (Datum.textKey symbol) =
        (chart.tree grammar symbol).relabel Datum.textKey :=
    chart.treeShowing_rename Datum.textKey_injective
      (fun _ inside => shownWord_ofChart chart inside) 0 (chart.length - 1) []
      symbol (Nat.zero_le _) (Nat.sub_lt positive Nat.one_pos)
  rw [shown, Chart.length_rename, renamed, Tree.relabel_relabel]
  intro word
  rw [Datum.textKey, Datum.textOfKey?_key, Option.getD_some]

end LooseChart

end SentenceChart
