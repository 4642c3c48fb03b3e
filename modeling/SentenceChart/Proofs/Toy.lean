import Mathlib.Data.List.Infix
import SentenceChart.Proofs.Decision
import SentenceChart.Proofs.Diagnosis
import SentenceChart.Proofs.Grammar

/-!
# Short English sentences

The grammar of short English sentences derives sentences of three and of five
words, and each has one tree (`isDerivation_toy_iff`).  All other lists of its
words are refused, and the diagnosis can be read off the words: a noun phrase is
found exactly if a noun follows a determiner.
-/

namespace SentenceChart

namespace Grammar

/-- The category has no bodies but the single words of a list. -/
structure IsLexical (grammar : Grammar) (category : Symbol)
    (words : List Symbol) : Prop where
  bodies_eq : grammar.bodiesOf category = words.map ([·])
  isTerminal_of_mem : ∀ word ∈ words, grammar.isTerminal word = true

namespace IsLexical

variable {grammar : Grammar} {category : Symbol} {words : List Symbol}
  (lexical : grammar.IsLexical category words)

include lexical

theorem isDerivation_leaf {word : Symbol} (member : word ∈ words) :
    (Tree.leaf category word).IsDerivation grammar := by
  have body : [word] ∈ grammar.bodiesOf category := by
    rw [lexical.bodies_eq]
    exact List.mem_map.mpr ⟨word, member, rfl⟩
  exact .leaf (mem_bodiesOf_iff.mp body) (lexical.isTerminal_of_mem word member)

theorem eq_leaf {tree : Tree} (derivation : tree.IsDerivation grammar)
    (label : tree.label = category) :
    ∃ word ∈ words, tree = .leaf category word := by
  obtain ⟨body, member, expands⟩ := derivation.exists_expands label
  rw [lexical.bodies_eq] at member
  obtain ⟨word, wordMember, rfl⟩ := List.mem_map.mp member
  cases expands with
  | leaf => exact ⟨word, wordMember, rfl⟩
  | unit _ notTerminal =>
      rw [lexical.isTerminal_of_mem word wordMember] at notTerminal
      cases notTerminal

theorem derives_iff {word : Symbol} :
    grammar.Derives category [word] ↔ word ∈ words := by
  rw [derives_iff_exists_tree]
  constructor
  · rintro ⟨tree, derivation, label, leaves⟩
    obtain ⟨found, member, rfl⟩ := lexical.eq_leaf derivation label
    rw [Tree.leaves_leaf] at leaves
    cases leaves
    exact member
  · intro member
    exact ⟨_, lexical.isDerivation_leaf member, rfl, Tree.leaves_leaf _ _⟩

end IsLexical

theorem isLexical_determiners : toy.IsLexical Category.determiner determiners :=
  ⟨by decide, by decide⟩

theorem isLexical_nouns : toy.IsLexical Category.noun nouns :=
  ⟨by decide, by decide⟩

theorem isLexical_verbs : toy.IsLexical Category.verb verbs :=
  ⟨by decide, by decide⟩

/-- The tree of a determiner and a noun. -/
def nounPhrase (determiner noun : String) : Tree :=
  .pair "NP" (.leaf "Det" determiner) (.leaf "N" noun)

/-- The short English sentences with their trees: a noun phrase and a verb, which
another noun phrase may follow. -/
inductive ToySentence : List String → Tree → Prop where
  | intransitive {determiner noun verb : String} :
      determiner ∈ determiners →
      noun ∈ nouns →
      verb ∈ verbs →
      ToySentence [determiner, noun, verb]
        (.pair "S" (nounPhrase determiner noun)
          (.unit "VP" (.leaf "V" verb)))
  | transitive {determiner noun verb determiner' noun' : String} :
      determiner ∈ determiners →
      noun ∈ nouns →
      verb ∈ verbs →
      determiner' ∈ determiners →
      noun' ∈ nouns →
      ToySentence [determiner, noun, verb, determiner', noun']
        (.pair "S" (nounPhrase determiner noun)
          (.pair "VP" (.leaf "V" verb) (nounPhrase determiner' noun')))

@[simp]
theorem leaves_nounPhrase (determiner noun : String) :
    (nounPhrase determiner noun).leaves = [determiner, noun] := by
  simp [nounPhrase]

theorem isDerivation_nounPhrase {determiner noun : String}
    (determinerMember : determiner ∈ determiners) (nounMember : noun ∈ nouns) :
    (nounPhrase determiner noun).IsDerivation toy := by
  have rule : (⟨"NP", ["Det", "N"]⟩ : Rule) ∈ toy.rules := by
    decide
  exact .pair rule (isLexical_determiners.isDerivation_leaf determinerMember)
    (isLexical_nouns.isDerivation_leaf nounMember)

theorem eq_nounPhrase {tree : Tree} (derivation : tree.IsDerivation toy)
    (label : tree.label = "NP") :
    ∃ determiner ∈ determiners, ∃ noun ∈ nouns,
      tree = nounPhrase determiner noun := by
  have bodies : toy.bodiesOf "NP" = [["Det", "N"]] := by
    decide
  obtain ⟨body, member, expands⟩ := derivation.exists_expands label
  rw [bodies, List.mem_singleton] at member
  subst member
  cases expands with
  | pair leftLabel rightLabel left right =>
      obtain ⟨determiner, determinerMember, rfl⟩ :=
        isLexical_determiners.eq_leaf left leftLabel
      obtain ⟨noun, nounMember, rfl⟩ := isLexical_nouns.eq_leaf right rightLabel
      exact ⟨determiner, determinerMember, noun, nounMember, rfl⟩

theorem derives_nounPhrase_iff {sentence : List String} :
    toy.Derives Category.nounPhrase sentence ↔
      ∃ determiner ∈ determiners, ∃ noun ∈ nouns,
        sentence = [determiner, noun] := by
  rw [derives_iff_exists_tree]
  constructor
  · rintro ⟨tree, derivation, label, rfl⟩
    obtain ⟨determiner, determinerMember, noun, nounMember, rfl⟩ :=
      eq_nounPhrase derivation label
    exact ⟨determiner, determinerMember, noun, nounMember,
      leaves_nounPhrase _ _⟩
  · rintro ⟨determiner, determinerMember, noun, nounMember, rfl⟩
    exact ⟨nounPhrase determiner noun,
      isDerivation_nounPhrase determinerMember nounMember, rfl,
      leaves_nounPhrase _ _⟩

theorem eq_verbPhrase {tree : Tree} (derivation : tree.IsDerivation toy)
    (label : tree.label = "VP") :
    ∃ verb ∈ verbs, tree = .unit "VP" (.leaf "V" verb) ∨
      ∃ determiner ∈ determiners, ∃ noun ∈ nouns,
        tree = .pair "VP" (.leaf "V" verb) (nounPhrase determiner noun) := by
  have bodies : toy.bodiesOf "VP" = [["V", "NP"], ["V"]] := by
    decide
  obtain ⟨body, member, expands⟩ := derivation.exists_expands label
  simp only [bodies, List.mem_cons, List.not_mem_nil, or_false] at member
  rcases member with rfl | rfl
  · cases expands with
    | pair leftLabel rightLabel left right =>
        obtain ⟨verb, verbMember, rfl⟩ := isLexical_verbs.eq_leaf left leftLabel
        obtain ⟨determiner, determinerMember, noun, nounMember, rfl⟩ :=
          eq_nounPhrase right rightLabel
        exact ⟨verb, verbMember,
          .inr ⟨determiner, determinerMember, noun, nounMember, rfl⟩⟩
  · -- A body of one symbol may be a word, but `V` is none.
    cases expands with
    | leaf terminal => exact absurd terminal (by decide)
    | unit childLabel _ child =>
        obtain ⟨verb, verbMember, rfl⟩ :=
          isLexical_verbs.eq_leaf child childLabel
        exact ⟨verb, verbMember, .inl rfl⟩

theorem exists_toySentence {tree : Tree} (derivation : tree.IsDerivation toy)
    (label : tree.label = "S") : ∃ words, ToySentence words tree := by
  have bodies : toy.bodiesOf "S" = [["NP", "VP"]] := by
    decide
  obtain ⟨body, member, expands⟩ := derivation.exists_expands label
  rw [bodies, List.mem_singleton] at member
  subst member
  cases expands with
  | pair leftLabel rightLabel left right =>
      obtain ⟨determiner, determinerMember, noun, nounMember, rfl⟩ :=
        eq_nounPhrase left leftLabel
      obtain ⟨verb, verbMember, rfl | ⟨determiner', determinerMember', noun',
        nounMember', rfl⟩⟩ := eq_verbPhrase right rightLabel
      · exact ⟨_, .intransitive determinerMember nounMember verbMember⟩
      · exact ⟨_, .transitive determinerMember nounMember verbMember
          determinerMember' nounMember'⟩

namespace ToySentence

variable {words : List String} {tree : Tree}

theorem leaves_eq (sentence : ToySentence words tree) : tree.leaves = words := by
  cases sentence with
  | intransitive => simp
  | transitive => simp

theorem label_eq (sentence : ToySentence words tree) : tree.label = "S" := by
  cases sentence with
  | intransitive => rfl
  | transitive => rfl

theorem isDerivation (sentence : ToySentence words tree) :
    tree.IsDerivation toy := by
  have sentenceRule : (⟨"S", ["NP", "VP"]⟩ : Rule) ∈ toy.rules := by
    decide
  cases sentence with
  | intransitive determinerMember nounMember verbMember =>
      have verbRule : (⟨"VP", ["V"]⟩ : Rule) ∈ toy.rules := by
        decide
      have notTerminal : toy.isTerminal "V" = false := by
        decide
      have verb := isLexical_verbs.isDerivation_leaf verbMember
      exact .pair sentenceRule
        (isDerivation_nounPhrase determinerMember nounMember)
        (.unit verbRule notTerminal verb)
  | transitive determinerMember nounMember verbMember determinerMember'
      nounMember' =>
      have verbRule : (⟨"VP", ["V", "NP"]⟩ : Rule) ∈ toy.rules := by
        decide
      have verb := isLexical_verbs.isDerivation_leaf verbMember
      exact .pair sentenceRule
        (isDerivation_nounPhrase determinerMember nounMember)
        (.pair verbRule verb
          (isDerivation_nounPhrase determinerMember' nounMember'))

theorem unique {other : Tree} (sentence : ToySentence words tree)
    (otherSentence : ToySentence words other) : tree = other := by
  cases sentence with
  | intransitive =>
      cases otherSentence
      rfl
  | transitive =>
      cases otherSentence
      rfl

end ToySentence

/-- The derivations from the start symbol are the trees of the short English
sentences. -/
theorem isDerivation_toy_iff {words : List String} {tree : Tree} :
    tree.IsDerivation toy ∧ tree.label = "S" ∧ tree.leaves = words ↔
      ToySentence words tree := by
  constructor
  · rintro ⟨derivation, label, rfl⟩
    obtain ⟨words, sentence⟩ := exists_toySentence derivation label
    rwa [sentence.leaves_eq]
  · intro sentence
    exact ⟨sentence.isDerivation, sentence.label_eq, sentence.leaves_eq⟩

theorem derives_toy_iff {words : List String} :
    toy.Derives "S" words ↔ ∃ tree, ToySentence words tree := by
  simp only [derives_iff_exists_tree, isDerivation_toy_iff]

theorem mem_terminals_toy {word : String}
    (known : word ∈ determiners ++ nouns ++ verbs) : word ∈ toy.terminals := by
  have all : ∀ word ∈ determiners ++ nouns ++ verbs, word ∈ toy.terminals := by
    decide
  exact all word known

end Grammar

/-- The first reason that fits a list of determiners, nouns and verbs. -/
def Diagnosis.ofKnownWords (words : List String) : Diagnosis :=
  if words.length = 1 then .singleWord
  else if ∀ word ∈ words, word ∉ Grammar.determiners then .noDeterminer
  else if ∀ word ∈ words, word ∉ Grammar.nouns then .noNoun
  else if ∀ word ∈ words, word ∉ Grammar.verbs then .noVerb
  else if ∀ determiner ∈ Grammar.determiners, ∀ noun ∈ Grammar.nouns,
      ¬[determiner, noun] <:+: words then .noNounPhrase
  else .wrongStructure

namespace Chart

variable {chart : Chart} (exact : chart.IsExact Grammar.toy)

include exact

theorem IsExact.not_hasWord_iff {category : Symbol} {words : List Symbol}
    (lexical : Grammar.toy.IsLexical category words) :
    (!chart.hasWord category) = true ↔ ∀ word ∈ chart.tokens, word ∉ words := by
  rw [Bool.not_eq_true', ← Bool.not_eq_true, exact.hasWord_iff]
  simp only [Grammar.DerivesWordOf, lexical.derives_iff, not_exists, not_and]

/-- A noun phrase is found exactly if a noun follows a determiner. -/
theorem IsExact.not_hasPhrase_iff :
    (!chart.hasPhrase Category.nounPhrase) = true ↔
      ∀ determiner ∈ Grammar.determiners, ∀ noun ∈ Grammar.nouns,
        ¬[determiner, noun] <:+: chart.tokens := by
  rw [Bool.not_eq_true', ← Bool.not_eq_true, exact.hasPhrase_iff]
  simp only [Grammar.DerivesPhraseOf, Grammar.derives_nounPhrase_iff]
  constructor
  · intro absent determiner determinerMember noun nounMember part
    exact absent ⟨_, part, by simp, determiner, determinerMember, noun,
      nounMember, rfl⟩
  · rintro absent ⟨_, part, _, determiner, determinerMember, noun, nounMember,
      rfl⟩
    exact absent determiner determinerMember noun nounMember part

theorem IsExact.diagnosis_eq_ofKnownWords :
    chart.diagnosis = .ofKnownWords chart.tokens := by
  rw [diagnosis, Diagnosis.ofKnownWords]
  simp only [exact.not_hasWord_iff Grammar.isLexical_determiners,
    exact.not_hasWord_iff Grammar.isLexical_nouns,
    exact.not_hasWord_iff Grammar.isLexical_verbs, exact.not_hasPhrase_iff,
    length]

end Chart

namespace Checker

/-- The verdict on words of the grammar, set in lower case. -/
theorem checkTokens_toy {limit : Option Int} {words : List String}
    (nonempty : words ≠ []) (lower : words.map Sentence.lowercase = words)
    (within : Grammar.WithinLimit limit words.length)
    (known : ∀ word ∈ words,
      word ∈ Grammar.determiners ++ Grammar.nouns ++ Grammar.verbs) :
    (∀ tree, Grammar.ToySentence words tree →
        (Checker.mk Grammar.toy limit).checkTokens words = .valid tree) ∧
      ((∀ tree, ¬Grammar.ToySentence words tree) →
        (Checker.mk Grammar.toy limit).checkTokens words =
          .invalid ⟨(Diagnosis.ofKnownWords words).message, 0, none,
            .structural⟩) := by
  have terminals : ∀ word ∈ words.map Sentence.lowercase,
      word ∈ Grammar.toy.terminals := by
    rw [lower]
    exact fun word member => Grammar.mem_terminals_toy (known word member)
  obtain ⟨chart, filled⟩ : ∃ chart,
      (Checker.mk Grammar.toy limit).chart? words = .ok chart :=
    Grammar.exists_chart?_iff.mpr ⟨nonempty, within, terminals⟩
  have exact := Grammar.isExact_of_chart? filled
  have tokens : chart.tokens = words := by
    rw [Grammar.tokens_of_chart? filled, lower]
  have accepted_iff : chart.accepted = true ↔
      ∃ tree, Grammar.ToySentence words tree := by
    rw [exact.accepted_iff, tokens]
    exact Grammar.derives_toy_iff
  have verdict := checkTokens_of_ok filled
  constructor
  · intro tree sentence
    rw [if_pos (accepted_iff.mpr ⟨tree, sentence⟩)] at verdict
    obtain ⟨label, derivation, leaves⟩ :=
      derivation_of_checkTokens_eq_valid verdict
    rw [lower] at leaves
    rw [verdict, sentence.unique
      (Grammar.isDerivation_toy_iff.mp ⟨derivation, label, leaves⟩)]
  · intro noSentence
    have refused : ¬chart.accepted = true := by
      rw [accepted_iff]
      rintro ⟨tree, sentence⟩
      exact noSentence tree sentence
    rw [verdict, if_neg refused, Refusal.ofChart, exact.faultPosition_eq_zero,
      exact.diagnosis_eq_ofKnownWords, tokens]
    rfl

end Checker

end SentenceChart
