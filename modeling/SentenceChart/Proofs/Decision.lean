import SentenceChart.Proofs.Diagnosis
import SentenceChart.Proofs.Tokens

/-!
# What a checker decides

A text is in one of five cases, which are tried in order: it is blank, it has
too many words, it has an unknown word, or the start symbol derives its words or
does not.  The cases are said without a chart.  The checker finds the case and
gives a verdict that goes with it, whatever the grammar and the limit are.  There
is one exception: the refusal of too many words names the limit, so there is no
verdict if the limit has too many digits (`check_eq_unwritable_iff`).
-/

namespace SentenceChart

namespace Checker

/-- The texts about words that the start symbol does not derive. -/
def structuralTexts : List String :=
  ["Single word cannot form a complete sentence. " ++
      "Expected: Determiner + Noun + Verb (+ optional Noun Phrase)",
    "Missing determiner ('the' or 'a')",
    "Missing noun",
    "Missing verb",
    "Cannot form noun phrase. Expected: Determiner + Noun",
    "Invalid sentence structure. Expected: Noun Phrase + Verb Phrase"]

theorem message_mem_structuralTexts (diagnosis : Diagnosis) :
    diagnosis.message ∈ structuralTexts := by
  cases diagnosis <;> decide

/-- The cases in which a sentence may be, in the order in which they are tried.
Too many words are two cases, since the limit may have no numeral. -/
inductive Outcome where
  | blank
  | tooLong
  | unwritable
  | unknownWord
  | derivable
  | underivable

/-- The case of the lower-case words of a sentence, and a verdict that goes with
it. -/
inductive DecidesWords (checker : Checker) (words : List String) :
    Outcome → Verdict → Prop where
  | tooLong {most : Int} :
      checker.limit = some most →
      most < words.length →
      most.natAbs < Text.numeralBound →
      DecidesWords checker words .tooLong
        (.invalid ⟨"Sentence too long: " ++ Text.showInt words.length ++
          " words (maximum " ++ Text.showInt most ++ ")",
          most, none, .inputTooLong⟩)
  | unwritable {most : Int} :
      checker.limit = some most →
      most < words.length →
      Text.numeralBound ≤ most.natAbs →
      DecidesWords checker words .unwritable .unwritable
  | unknownWord {front back : List String} {word : String} :
      Grammar.WithinLimit checker.limit words.length →
      words = front ++ word :: back →
      (∀ earlier ∈ front, earlier ∈ checker.grammar.terminals) →
      word ∉ checker.grammar.terminals →
      DecidesWords checker words .unknownWord
        (.invalid ⟨"Unknown word: \"" ++ word ++ "\"", front.length,
          some word, .unknownWord⟩)
  | derivable {tree : Tree} :
      Grammar.WithinLimit checker.limit words.length →
      (∀ word ∈ words, word ∈ checker.grammar.terminals) →
      checker.grammar.Derives checker.grammar.start words →
      tree.IsDerivation checker.grammar →
      tree.label = checker.grammar.start →
      tree.leaves = words →
      DecidesWords checker words .derivable (.valid tree)
  | underivable {message : String} :
      Grammar.WithinLimit checker.limit words.length →
      (∀ word ∈ words, word ∈ checker.grammar.terminals) →
      ¬checker.grammar.Derives checker.grammar.start words →
      message ∈ structuralTexts →
      DecidesWords checker words .underivable
        (.invalid ⟨message, 0, none, .structural⟩)

/-- The case of a list of words, and a verdict that goes with it. -/
inductive DecidesTokens (checker : Checker) :
    List String → Outcome → Verdict → Prop where
  | blank :
      DecidesTokens checker [] .blank
        (.invalid ⟨"Empty sentence", 0, none, .emptyInput⟩)
  | words {tokens : List String} {outcome : Outcome} {verdict : Verdict} :
      tokens ≠ [] →
      DecidesWords checker (tokens.map Sentence.lowercase) outcome verdict →
      DecidesTokens checker tokens outcome verdict

/-- The case of a text, which may be missing, and a verdict that goes with
it. -/
inductive Decides (checker : Checker) :
    Option String → Outcome → Verdict → Prop where
  | blank {raw : Option String} :
      (∀ text, raw = some text → ∀ c ∈ text.toList, Text.isBlank c = true) →
      Decides checker raw .blank
        (.invalid ⟨"Please enter a sentence to validate", 0, none,
          .emptyInput⟩)
  | words {text : String} {outcome : Outcome} {verdict : Verdict} :
      (∃ c ∈ text.toList, Text.isBlank c = false) →
      DecidesWords checker (Sentence.words text) outcome verdict →
      Decides checker (some text) outcome verdict

variable {checker : Checker}

namespace DecidesWords

variable {words : List String} {outcome : Outcome} {verdict : Verdict}

/-- Over the limit, only the size of the limit counts. -/
theorem outcome_of_exceeds
    (decides : checker.DecidesWords words outcome verdict) {most : Int}
    (limited : checker.limit = some most) (exceeds : most < words.length) :
    outcome =
      if most.natAbs < Text.numeralBound then .tooLong else .unwritable := by
  have denied (within : Grammar.WithinLimit checker.limit words.length) :
      False :=
    Int.not_le.mpr exceeds (within most limited)
  cases decides with
  | tooLong limited' _ short =>
      cases limited.symm.trans limited'
      rw [if_pos short]
  | unwritable limited' _ long =>
      cases limited.symm.trans limited'
      rw [if_neg (Nat.not_lt.mpr long)]
  | unknownWord within => exact (denied within).elim
  | derivable within => exact (denied within).elim
  | underivable within => exact (denied within).elim

theorem outcome_of_unknown
    (decides : checker.DecidesWords words outcome verdict)
    (within : Grammar.WithinLimit checker.limit words.length) {word : String}
    (member : word ∈ words) (unknown : word ∉ checker.grammar.terminals) :
    outcome = .unknownWord := by
  cases decides with
  | tooLong limited exceeds =>
      exact (Int.not_le.mpr exceeds (within _ limited)).elim
  | unwritable limited exceeds =>
      exact (Int.not_le.mpr exceeds (within _ limited)).elim
  | unknownWord => rfl
  | derivable _ known => exact absurd (known word member) unknown
  | underivable _ known => exact absurd (known word member) unknown

theorem outcome_of_known
    (decides : checker.DecidesWords words outcome verdict)
    (within : Grammar.WithinLimit checker.limit words.length)
    (known : ∀ word ∈ words, word ∈ checker.grammar.terminals) :
    outcome = .derivable ∧
        checker.grammar.Derives checker.grammar.start words ∨
      outcome = .underivable ∧
        ¬checker.grammar.Derives checker.grammar.start words := by
  cases decides with
  | tooLong limited exceeds =>
      exact (Int.not_le.mpr exceeds (within _ limited)).elim
  | unwritable limited exceeds =>
      exact (Int.not_le.mpr exceeds (within _ limited)).elim
  | unknownWord _ split _ unknown =>
      exact absurd (known _ (by simp [split])) unknown
  | derivable _ _ derived => exact .inl ⟨rfl, derived⟩
  | underivable _ _ underived => exact .inr ⟨rfl, underived⟩

theorem outcome_unique {other : Outcome} {otherVerdict : Verdict}
    (decides : checker.DecidesWords words outcome verdict)
    (decides' : checker.DecidesWords words other otherVerdict) :
    outcome = other := by
  cases decides with
  | tooLong limited exceeds short =>
      rw [decides'.outcome_of_exceeds limited exceeds, if_pos short]
  | unwritable limited exceeds long =>
      rw [decides'.outcome_of_exceeds limited exceeds,
        if_neg (Nat.not_lt.mpr long)]
  | unknownWord within split _ unknown =>
      exact (decides'.outcome_of_unknown within (by simp [split]) unknown).symm
  | derivable within known derived =>
      obtain ⟨same, _⟩ | ⟨_, underived⟩ := decides'.outcome_of_known within known
      · exact same.symm
      · exact absurd derived underived
  | underivable within known underived =>
      obtain ⟨_, derived⟩ | ⟨same, _⟩ := decides'.outcome_of_known within known
      · exact absurd derived underived
      · exact same.symm

end DecidesWords

theorem DecidesTokens.outcome_unique {tokens : List String}
    {outcome other : Outcome} {verdict otherVerdict : Verdict}
    (decides : checker.DecidesTokens tokens outcome verdict)
    (decides' : checker.DecidesTokens tokens other otherVerdict) :
    outcome = other := by
  cases decides with
  | blank =>
      cases decides' with
      | blank => rfl
      | words nonempty => exact absurd rfl nonempty
  | words nonempty decidesWords =>
      cases decides' with
      | blank => exact absurd rfl nonempty
      | words _ decidesWords' => exact decidesWords.outcome_unique decidesWords'

theorem Decides.outcome_unique {raw : Option String}
    {outcome other : Outcome} {verdict otherVerdict : Verdict}
    (decides : checker.Decides raw outcome verdict)
    (decides' : checker.Decides raw other otherVerdict) :
    outcome = other := by
  have blankDenied {text : String}
      (blank : ∀ given, some text = some given →
        ∀ c ∈ given.toList, Text.isBlank c = true)
      (notBlank : ∃ c ∈ text.toList, Text.isBlank c = false) : False := by
    obtain ⟨c, member, cNotBlank⟩ := notBlank
    rw [blank text rfl c member] at cNotBlank
    cases cNotBlank
  cases decides with
  | blank blank =>
      cases decides' with
      | blank => rfl
      | words notBlank => exact (blankDenied blank notBlank).elim
  | words notBlank decidesWords =>
      cases decides' with
      | blank blank => exact (blankDenied blank notBlank).elim
      | words _ decidesWords' => exact decidesWords.outcome_unique decidesWords'

/-- A list of words is rejected before a chart is filled in the case of its
lower-case words. -/
theorem decidesWords_of_error {tokens : List String} {rejection : Rejection}
    (nonempty : tokens ≠ [])
    (rejected : checker.chart? tokens = .error rejection) :
    ∃ outcome, checker.DecidesWords (tokens.map Sentence.lowercase) outcome
      (.ofRejection rejection) := by
  have sameLength : (tokens.map Sentence.lowercase).length = tokens.length :=
    List.length_map _
  rw [chart?, Grammar.chart?, dif_neg nonempty] at rejected
  cases exceeded : Grammar.exceeded? checker.limit tokens.length with
  | some most =>
      rw [exceeded] at rejected
      cases rejected
      obtain ⟨limited, exceeds⟩ := Grammar.exceeded?_eq_some_iff.mp exceeded
      rw [← sameLength] at exceeds ⊢
      rcases Nat.lt_or_ge most.natAbs Text.numeralBound with short | long
      · rw [Verdict.ofRejection_tooLong_of_lt _ short]
        exact ⟨_, .tooLong limited exceeds short⟩
      · rw [Verdict.ofRejection_tooLong_of_le _ long]
        exact ⟨_, .unwritable limited exceeds long⟩
  | none =>
      rw [exceeded] at rejected
      have within := Grammar.exceeded?_eq_none_iff.mp exceeded
      rw [← sameLength] at within
      simp only at rejected
      split at rejected
      · rename_i word position found
        cases rejected
        obtain ⟨front, back, split, rfl, earlierKnown, unknown⟩ :=
          Grammar.exists_front_of_unknownWord? found
        exact ⟨_, .unknownWord within split earlierKnown unknown⟩
      · cases rejected

theorem decidesWords_of_ok {tokens : List String} {chart : Chart}
    (filled : checker.chart? tokens = .ok chart) :
    ∃ outcome, checker.DecidesWords (tokens.map Sentence.lowercase) outcome
      (checker.checkTokens tokens) := by
  obtain ⟨_, within, known, _⟩ := Grammar.chart?_eq_ok_iff.mp filled
  rw [← List.length_map Sentence.lowercase] at within
  have exact := Grammar.isExact_of_chart? filled
  have accepted_iff := Grammar.accepted_iff_of_chart? filled
  by_cases accepted : chart.accepted = true
  · have valid : checker.checkTokens tokens =
        .valid (chart.startTree checker.grammar) := by
      rw [checkTokens_of_ok filled, if_pos accepted]
    obtain ⟨label, derivation, leaves⟩ :=
      derivation_of_checkTokens_eq_valid valid
    rw [valid]
    exact ⟨_, .derivable within known (accepted_iff.mp accepted) derivation
      label leaves⟩
  · rw [checkTokens_of_ok filled, if_neg accepted, Refusal.ofChart,
      exact.faultPosition_eq_zero]
    exact ⟨_, .underivable within known (mt accepted_iff.mpr accepted)
      (message_mem_structuralTexts chart.diagnosis)⟩

theorem decidesWords_checkTokens (checker : Checker) {tokens : List String}
    (nonempty : tokens ≠ []) :
    ∃ outcome, checker.DecidesWords (tokens.map Sentence.lowercase) outcome
      (checker.checkTokens tokens) := by
  cases filled : checker.chart? tokens with
  | error rejection =>
      rw [checkTokens_of_error filled]
      exact decidesWords_of_error nonempty filled
  | ok chart => exact decidesWords_of_ok filled

theorem decidesTokens_checkTokens (checker : Checker) (tokens : List String) :
    ∃ outcome,
      checker.DecidesTokens tokens outcome (checker.checkTokens tokens) := by
  cases tokens with
  | nil => exact ⟨_, .blank⟩
  | cons first rest =>
      have nonempty : first :: rest ≠ [] := List.cons_ne_nil _ _
      obtain ⟨outcome, decides⟩ := checker.decidesWords_checkTokens nonempty
      exact ⟨outcome, .words nonempty decides⟩

theorem decides_check (checker : Checker) (raw : Option String) :
    ∃ outcome, checker.Decides raw outcome (checker.check raw) := by
  cases raw with
  | none =>
      refine ⟨_, .blank ?_⟩
      intro text missing
      cases missing
  | some text =>
      by_cases blank : Text.isBlankText text.toList = true
      · have verdict : checker.check (some text) =
            .ofRejection .blankSentence := by
          rw [check, examine, Sentence.words?, if_pos blank]
          rfl
        rw [verdict]
        refine ⟨_, .blank ?_⟩
        rintro _ ⟨⟩
        exact List.all_eq_true.mp blank
      · rw [Bool.not_eq_true] at blank
        obtain ⟨outcome, decides⟩ :=
          checker.decidesWords_checkTokens (Sentence.words_ne_nil blank)
        rw [Sentence.map_lowercase_words, ← check_of_not_blank blank] at decides
        exact ⟨outcome,
          .words (Text.isBlankText_eq_false_iff.mp blank) decides⟩

/-- There is no verdict exactly if the words are over a limit with too many
digits. -/
theorem check_eq_unwritable_iff {raw : String}
    (notBlank : ∃ c ∈ raw.toList, Text.isBlank c = false) :
    checker.check (some raw) = .unwritable ↔
      ∃ most, checker.limit = some most ∧
        most < (Sentence.words raw).length ∧
        Text.numeralBound ≤ most.natAbs := by
  obtain ⟨outcome, decides⟩ := checker.decides_check (some raw)
  constructor
  · intro nothing
    rw [nothing] at decides
    cases decides with
    | words _ decidesWords =>
        cases decidesWords with
        | unwritable limited exceeds long => exact ⟨_, limited, exceeds, long⟩
  · rintro ⟨most, limited, exceeds, long⟩
    have case : checker.Decides (some raw) .unwritable .unwritable :=
      .words notBlank (.unwritable limited exceeds long)
    cases decides.outcome_unique case
    generalize checker.check (some raw) = verdict at decides
    cases decides with
    | words _ decidesWords =>
        cases decidesWords
        rfl

theorem check_isWritable
    (short : ∀ most, checker.limit = some most →
      most.natAbs < Text.numeralBound) (raw : Option String) :
    (checker.check raw).isWritable = true := by
  obtain ⟨outcome, decides⟩ := checker.decides_check raw
  generalize checker.check raw = verdict at decides
  cases decides with
  | blank => rfl
  | words _ decidesWords =>
      cases decidesWords with
      | unwritable limited _ long =>
          exact (Nat.not_lt.mpr long (short _ limited)).elim
      | _ => rfl

/-- Every text and every list of words is in exactly one case, and its verdict
goes with it.  No nonterminal is a known word. -/
theorem exactly_one_outcome (checker : Checker) :
    (∀ raw, ∃ outcome, checker.Decides raw outcome (checker.check raw) ∧
      ∀ other verdict, checker.Decides raw other verdict → other = outcome) ∧
      (∀ tokens, ∃ outcome,
        checker.DecidesTokens tokens outcome (checker.checkTokens tokens) ∧
          ∀ other verdict, checker.DecidesTokens tokens other verdict →
            other = outcome) ∧
      ∀ symbol ∈ checker.grammar.nonterminals,
        symbol ∉ checker.grammar.terminals := by
  refine ⟨?_, ?_, ?_⟩
  · intro raw
    obtain ⟨outcome, decides⟩ := checker.decides_check raw
    exact ⟨outcome, decides,
      fun _ _ decides' => decides'.outcome_unique decides⟩
  · intro tokens
    obtain ⟨outcome, decides⟩ := checker.decidesTokens_checkTokens tokens
    exact ⟨outcome, decides,
      fun _ _ decides' => decides'.outcome_unique decides⟩
  · intro symbol nonterminal
    exact Grammar.not_mem_terminals_of_mem nonterminal

/-- A word that names a nonterminal when it is not set in lower case is an
unknown word. -/
theorem exactly_one_outcome_cyclic :
    cyclic.Decides (some " Go\tS ") .unknownWord
        (cyclic.check (some " Go\tS ")) ∧
      cyclic.DecidesTokens ["Go", "GO", "GO"] .tooLong
        (cyclic.checkTokens ["Go", "GO", "GO"]) ∧
      "S" ∉ cyclic.grammar.terminals := by
  obtain ⟨texts, lists, unknown⟩ := exactly_one_outcome cyclic
  refine ⟨?_, ?_, unknown "S" (by decide)⟩
  · obtain ⟨outcome, decides, unique⟩ := texts (some " Go\tS ")
    have words : Sentence.words " Go\tS " = ["go"] ++ "s" :: [] := by
      decide
    have notBlank : ∃ c ∈ " Go\tS ".toList, Text.isBlank c = false :=
      ⟨'G', by decide, by decide⟩
    have unknownS := unique .unknownWord _ (.words notBlank
      (.unknownWord (by simp [words, cyclic, Grammar.WithinLimit]) words
        (by decide) (by decide)))
    rwa [← unknownS] at decides
  · obtain ⟨outcome, decides, unique⟩ := lists ["Go", "GO", "GO"]
    have tooLong := unique .tooLong _ (.words (by decide)
      (.tooLong rfl (by decide)
        (Text.length_le_maxDigits_iff.mp (by decide))))
    rwa [← tooLong] at decides

/-- The least number with too many digits, below zero. -/
def farBelow : Int :=
  -Text.numeralBound

/-- There is no verdict on a sentence with two words if the limit is far below
zero. -/
theorem no_verdict_farBelow :
    (∃ c ∈ "The dog".toList, Text.isBlank c = false) ∧
      Sentence.words "The dog" = ["the", "dog"] ∧
      farBelow < (["the", "dog"] : List String).length ∧
      (mk Grammar.toy (some farBelow)).check (some "The dog") = .unwritable ∧
      ¬∃ refusal, (mk Grammar.toy (some farBelow)).check (some "The dog") =
        .invalid refusal := by
  have notBlank : ∃ c ∈ "The dog".toList, Text.isBlank c = false :=
    ⟨'T', by decide, by decide⟩
  have words : Sentence.words "The dog" = ["the", "dog"] := by
    decide +kernel
  have below : farBelow < (["the", "dog"] : List String).length := by
    have room : 0 ≤ (Text.numeralBound : Int) := Int.natCast_nonneg _
    rw [farBelow, List.length_cons, List.length_singleton]
    omega
  have size : farBelow.natAbs = Text.numeralBound := by
    rw [farBelow, Int.natAbs_neg, Int.natAbs_natCast]
  have nothing : (mk Grammar.toy (some farBelow)).check (some "The dog") =
      .unwritable :=
    (check_eq_unwritable_iff notBlank).mpr
      ⟨farBelow, rfl, by rwa [words], Nat.le_of_eq size.symm⟩
  refine ⟨notBlank, words, below, nothing, ?_⟩
  rintro ⟨refusal, refused⟩
  rw [nothing] at refused
  cases refused

end Checker

end SentenceChart
