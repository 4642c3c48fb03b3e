import SentenceChart.Proofs.Tree.Derivation

/-!
# What a diagnosis is about

In an exact chart the categories of the single words and of the longer parts of
a sentence are those that derive them.  A diagnosis looks at nothing else, so it
depends only on what the grammar derives (`IsExact.diagnosis_congr`).
`Explains` says without a chart which diagnosis fits a list of words: there is
one for each list, and it is the one that is reported.
-/

namespace SentenceChart

theorem Span.part_isInfix (tokens : List String) (first words : Nat) :
    Span.part tokens first words <:+: tokens :=
  (List.take_prefix _ _).isInfix.trans (List.drop_suffix _ _).isInfix

theorem Span.part_append (front part back : List String) :
    Span.part (front ++ part ++ back) front.length part.length = part := by
  rw [Span.part, List.append_assoc, List.drop_left, List.take_left]

namespace Grammar

/-- The category derives a word of the list. -/
def DerivesWordOf (grammar : Grammar) (category : Symbol)
    (words : List String) : Prop :=
  ∃ word ∈ words, grammar.Derives category [word]

/-- The category derives a part of the list of two words or more. -/
def DerivesPhraseOf (grammar : Grammar) (category : Symbol)
    (words : List String) : Prop :=
  ∃ part, part <:+: words ∧ 1 < part.length ∧ grammar.Derives category part

end Grammar

namespace Diagnosis

/-- The diagnosis fits the words: it names the first category that is missing
among several words. -/
inductive Explains (grammar : Grammar) (words : List String) :
    Diagnosis → Prop where
  | singleWord :
      words.length = 1 →
      Explains grammar words .singleWord
  | noDeterminer :
      1 < words.length →
      ¬grammar.DerivesWordOf Category.determiner words →
      Explains grammar words .noDeterminer
  | noNoun :
      1 < words.length →
      grammar.DerivesWordOf Category.determiner words →
      ¬grammar.DerivesWordOf Category.noun words →
      Explains grammar words .noNoun
  | noVerb :
      1 < words.length →
      grammar.DerivesWordOf Category.determiner words →
      grammar.DerivesWordOf Category.noun words →
      ¬grammar.DerivesWordOf Category.verb words →
      Explains grammar words .noVerb
  | noNounPhrase :
      1 < words.length →
      grammar.DerivesWordOf Category.determiner words →
      grammar.DerivesWordOf Category.noun words →
      grammar.DerivesWordOf Category.verb words →
      ¬grammar.DerivesPhraseOf Category.nounPhrase words →
      Explains grammar words .noNounPhrase
  | wrongStructure :
      1 < words.length →
      grammar.DerivesWordOf Category.determiner words →
      grammar.DerivesWordOf Category.noun words →
      grammar.DerivesWordOf Category.verb words →
      grammar.DerivesPhraseOf Category.nounPhrase words →
      Explains grammar words .wrongStructure

theorem exists_explains (grammar : Grammar) {words : List String}
    (nonempty : words ≠ []) :
    ∃ diagnosis : Diagnosis, diagnosis.Explains grammar words := by
  have positive := List.length_pos_iff.mpr nonempty
  by_cases one : words.length = 1
  · exact ⟨_, .singleWord one⟩
  have several : 1 < words.length := by omega
  by_cases determiner : grammar.DerivesWordOf Category.determiner words
  · by_cases noun : grammar.DerivesWordOf Category.noun words
    · by_cases verb : grammar.DerivesWordOf Category.verb words
      · by_cases phrase : grammar.DerivesPhraseOf Category.nounPhrase words
        · exact ⟨_, .wrongStructure several determiner noun verb phrase⟩
        · exact ⟨_, .noNounPhrase several determiner noun verb phrase⟩
      · exact ⟨_, .noVerb several determiner noun verb⟩
    · exact ⟨_, .noNoun several determiner noun⟩
  · exact ⟨_, .noDeterminer several determiner⟩

def all : List Diagnosis :=
  [.singleWord, .noDeterminer, .noNoun, .noVerb, .noNounPhrase,
    .wrongStructure]

theorem mem_all (diagnosis : Diagnosis) : diagnosis ∈ all := by
  cases diagnosis <;> decide

theorem message_inj {diagnosis other : Diagnosis} :
    diagnosis.message = other.message ↔ diagnosis = other := by
  have distinct : ∀ diagnosis ∈ all, ∀ other ∈ all,
      diagnosis.message = other.message → diagnosis = other := by
    decide
  constructor
  · exact distinct diagnosis diagnosis.mem_all other other.mem_all
  · exact congrArg message

end Diagnosis

namespace Chart

variable {chart : Chart} {grammar : Grammar}

theorem exists_word_iff {holds : String → Prop} :
    (∃ position < chart.length, holds (chart.token position)) ↔
      ∃ word ∈ chart.tokens, holds word := by
  constructor
  · rintro ⟨position, inside, held⟩
    exact ⟨chart.token position, token_mem inside, held⟩
  · rintro ⟨word, member, held⟩
    obtain ⟨position, inside, rfl⟩ := List.mem_iff_getElem.mp member
    refine ⟨position, inside, ?_⟩
    simpa [token, inside] using held

theorem exists_words_iff {holds : List String → Prop} :
    (∃ first last, first < last ∧ last < chart.length ∧
        holds (chart.words first last)) ↔
      ∃ part, part <:+: chart.tokens ∧ 1 < part.length ∧ holds part := by
  constructor
  · rintro ⟨first, last, ordered, inside, held⟩
    have count := length_words (Nat.le_of_lt ordered) inside
    exact ⟨chart.words first last, Span.part_isInfix _ _ _, by omega, held⟩
  · rintro ⟨part, ⟨front, back, split⟩, long, held⟩
    have inside : front.length + part.length ≤ chart.length := by
      rw [length, ← split, List.length_append, List.length_append]
      omega
    have count : front.length + part.length - 1 - front.length + 1 =
        part.length := by
      omega
    refine ⟨front.length, front.length + part.length - 1, by omega, by omega,
      ?_⟩
    rwa [words, count, ← split, Span.part_append]

theorem IsExact.hasWord_iff (exact : chart.IsExact grammar)
    (category : Symbol) :
    chart.hasWord category = true ↔
      grammar.DerivesWordOf category chart.tokens := by
  rw [Grammar.DerivesWordOf, ← exists_word_iff, hasWord, List.any_eq_true]
  simp only [List.mem_range, List.contains_iff_mem]
  constructor
  · rintro ⟨position, inside, held⟩
    rw [exact.mem_cell_iff (Nat.le_refl _) inside, words_self inside] at held
    exact ⟨position, inside, held⟩
  · rintro ⟨position, inside, derived⟩
    refine ⟨position, inside, ?_⟩
    rwa [exact.mem_cell_iff (Nat.le_refl _) inside, words_self inside]

theorem IsExact.hasPhrase_iff (exact : chart.IsExact grammar)
    (category : Symbol) :
    chart.hasPhrase category = true ↔
      grammar.DerivesPhraseOf category chart.tokens := by
  rw [Grammar.DerivesPhraseOf, ← exists_words_iff, hasPhrase,
    List.any_eq_true]
  simp only [Bool.and_eq_true, decide_eq_true_eq, List.contains_iff_mem,
    Span.mem_all_iff, Prod.exists]
  constructor
  · rintro ⟨first, last, ⟨_, inside⟩, ordered, held⟩
    refine ⟨first, last, ordered, inside, ?_⟩
    rwa [← exact.mem_cell_iff (Nat.le_of_lt ordered) inside]
  · rintro ⟨first, last, ordered, inside, derived⟩
    refine ⟨first, last, ⟨Nat.le_of_lt ordered, inside⟩, ordered, ?_⟩
    rwa [exact.mem_cell_iff (Nat.le_of_lt ordered) inside]

/-- In a chart of known words no single word has an empty cell. -/
theorem IsExact.faultPosition_eq_zero (exact : chart.IsExact grammar) :
    chart.faultPosition = 0 := by
  rw [faultPosition, List.find?_eq_none.mpr]
  · rfl
  · intro position inRange
    have inside : position < chart.length := List.mem_range.mp inRange
    have known := exact.mem_terminals _ (token_mem inside)
    obtain ⟨terminal, head, member⟩ := Grammar.mem_terminals_iff.mp known
    have held : head ∈ chart.cell position position := by
      rw [exact.mem_cell_iff (Nat.le_refl _) inside, words_self inside]
      exact .word member terminal
    rw [List.isEmpty_iff]
    exact List.ne_nil_of_mem held

theorem IsExact.diagnosis_congr {other : Chart} {otherGrammar : Grammar}
    (exact : chart.IsExact grammar) (otherExact : other.IsExact otherGrammar)
    (sameTokens : chart.tokens = other.tokens)
    (sameDerives : ∀ symbol sentence,
      grammar.Derives symbol sentence ↔ otherGrammar.Derives symbol sentence) :
    chart.diagnosis = other.diagnosis := by
  have sameLength : chart.length = other.length := by
    rw [length, length, sameTokens]
  have sameWord (category : Symbol) :
      chart.hasWord category = other.hasWord category := by
    rw [Bool.eq_iff_iff, exact.hasWord_iff, otherExact.hasWord_iff, sameTokens]
    simp only [Grammar.DerivesWordOf, sameDerives]
  have samePhrase (category : Symbol) :
      chart.hasPhrase category = other.hasPhrase category := by
    rw [Bool.eq_iff_iff, exact.hasPhrase_iff, otherExact.hasPhrase_iff,
      sameTokens]
    simp only [Grammar.DerivesPhraseOf, sameDerives]
  rw [diagnosis, diagnosis, sameLength, sameWord, sameWord, sameWord,
    samePhrase]

/-- The diagnosis that fits is the one that the chart gives. -/
theorem IsExact.diagnosis_eq_of_explains (exact : chart.IsExact grammar)
    {diagnosis : Diagnosis}
    (explains : diagnosis.Explains grammar chart.tokens) :
    chart.diagnosis = diagnosis := by
  cases explains with
  | singleWord one => rw [Chart.diagnosis, length, if_pos one]
  | noDeterminer several determiner =>
      rw [← exact.hasWord_iff] at determiner
      simp [Chart.diagnosis, length, Nat.ne_of_gt several, determiner]
  | noNoun several determiner noun =>
      rw [← exact.hasWord_iff] at determiner noun
      simp [Chart.diagnosis, length, Nat.ne_of_gt several, determiner, noun]
  | noVerb several determiner noun verb =>
      rw [← exact.hasWord_iff] at determiner noun verb
      simp [Chart.diagnosis, length, Nat.ne_of_gt several, determiner, noun,
        verb]
  | noNounPhrase several determiner noun verb phrase =>
      rw [← exact.hasWord_iff] at determiner noun verb
      rw [← exact.hasPhrase_iff] at phrase
      simp [Chart.diagnosis, length, Nat.ne_of_gt several, determiner, noun,
        verb, phrase]
  | wrongStructure several determiner noun verb phrase =>
      rw [← exact.hasWord_iff] at determiner noun verb
      rw [← exact.hasPhrase_iff] at phrase
      simp [Chart.diagnosis, length, Nat.ne_of_gt several, determiner, noun,
        verb, phrase]

theorem IsExact.diagnosis_eq_iff (exact : chart.IsExact grammar)
    {diagnosis : Diagnosis} :
    chart.diagnosis = diagnosis ↔ diagnosis.Explains grammar chart.tokens := by
  constructor
  · rintro rfl
    obtain ⟨found, explains⟩ :=
      Diagnosis.exists_explains grammar chart.tokens_ne_nil
    rwa [exact.diagnosis_eq_of_explains explains]
  · exact exact.diagnosis_eq_of_explains

end Chart

/-- The position of a diagnosis is the first word, and its text is that of the
diagnosis which fits the lower-case words. -/
theorem Chart.message_diagnosis_iff {grammar : Grammar} {limit : Option Int}
    {tokens : List String} {chart : Chart}
    (filled : grammar.chart? limit tokens = .ok chart) :
    chart.faultPosition = 0 ∧
      ∀ diagnosis : Diagnosis,
        chart.diagnosis.message = diagnosis.message ↔
          diagnosis.Explains grammar (tokens.map Sentence.lowercase) := by
  have exact := Grammar.isExact_of_chart? filled
  constructor
  · exact exact.faultPosition_eq_zero
  · intro diagnosis
    rw [Diagnosis.message_inj, exact.diagnosis_eq_iff,
      Grammar.tokens_of_chart? filled]

/-- A grammar without nouns, whose determiners are those of another category. -/
def Grammar.nounless : Grammar where
  start := "S"
  rules := [⟨"S", ["Det", "Det"]⟩, ⟨"Det", ["A"]⟩, ⟨"A", ["the"]⟩]
  grouped_rules := by decide
  start_mem := by decide
  isNearNormal_of_mem := by decide

theorem Chart.message_diagnosis_iff_nounless :
    ∃ chart, Grammar.nounless.chart? none ["The", "THE"] = .ok chart ∧
      chart.faultPosition = 0 ∧ chart.diagnosis.message = "Missing noun" := by
  have lower : ["The", "THE"].map Sentence.lowercase = ["the", "the"] := by
    decide
  obtain ⟨chart, filled⟩ :
      ∃ chart, Grammar.nounless.chart? none ["The", "THE"] = .ok chart := by
    apply Grammar.exists_chart?_iff.mpr
    rw [lower]
    exact ⟨by decide, by simp [Grammar.WithinLimit], by decide⟩
  obtain ⟨position, message_iff⟩ := message_diagnosis_iff filled
  refine ⟨chart, filled, position, (message_iff .noNoun).mpr ?_⟩
  rw [lower]
  apply Diagnosis.Explains.noNoun (by decide)
  · have derived : Grammar.nounless.Derives "A" ["the"] :=
      .word (by decide) (by decide)
    exact ⟨"the", by decide, .unit (by decide) (by decide) derived⟩
  · rintro ⟨word, _, derived⟩
    exact absurd derived.head_mem (by decide)

end SentenceChart
