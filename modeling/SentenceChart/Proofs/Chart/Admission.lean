import SentenceChart.Chart.Fill

/-!
# Which sentences have a chart

A list of words has a chart if it has a word, is within the limit, and every
lower-case word is a terminal of the grammar (`chart?_eq_ok_iff`).  The word that
is reported otherwise is the first one that is no terminal.
-/

namespace SentenceChart.Grammar

/-- There are no more words than the limit allows. -/
def WithinLimit (limit : Option Int) (length : Nat) : Prop :=
  ∀ most, limit = some most → (length : Int) ≤ most

theorem exceeded?_eq_none_iff {limit : Option Int} {length : Nat} :
    exceeded? limit length = none ↔ WithinLimit limit length := by
  cases limit <;> simp [exceeded?, WithinLimit, Option.filter]

theorem exceeded?_eq_some_iff {limit : Option Int} {length : Nat}
    {most : Int} :
    exceeded? limit length = some most ↔
      limit = some most ∧ most < (length : Int) := by
  rw [exceeded?, Option.filter_eq_some_iff]
  simp

theorem mem_terminals_iff {grammar : Grammar} {word : Symbol} :
    word ∈ grammar.terminals ↔
      grammar.isTerminal word = true ∧
        ∃ head, (⟨head, [word]⟩ : Rule) ∈ grammar.rules := by
  rw [terminals, List.mem_eraseDups, List.mem_filterMap]
  constructor
  · rintro ⟨⟨head, body⟩, member, found⟩
    split at found
    · split at found
      · rename_i symbol bodyEq terminal
        cases found
        cases bodyEq
        exact ⟨terminal, head, member⟩
      · cases found
    · cases found
  · rintro ⟨terminal, head, member⟩
    exact ⟨_, member, by simp [terminal]⟩

theorem not_mem_terminals_of_mem {grammar : Grammar} {symbol : Symbol}
    (nonterminal : symbol ∈ grammar.nonterminals) :
    symbol ∉ grammar.terminals := by
  intro member
  have terminal := (mem_terminals_iff.mp member).1
  rw [isTerminal_eq_false_iff.mpr nonterminal] at terminal
  cases terminal

theorem isEmpty_lexicalCell_iff {grammar : Grammar} {word : String} :
    (grammar.lexicalCell word).isEmpty = true ↔ word ∉ grammar.terminals := by
  rw [List.isEmpty_iff, List.eq_nil_iff_forall_not_mem, lexicalCell,
    mem_terminals_iff]
  by_cases terminal : grammar.isTerminal word = true
  · simp [terminal, mem_headsOf_iff]
  · simp [terminal]

theorem unknownWord?_eq_none_iff {grammar : Grammar} {tokens : List String} :
    grammar.unknownWord? tokens = none ↔
      ∀ word ∈ tokens, word ∈ grammar.terminals := by
  rw [unknownWord?, List.find?_eq_none]
  simp only [isEmpty_lexicalCell_iff, Decidable.not_not]
  constructor
  · intro known word member
    obtain ⟨position, atPosition⟩ := List.mem_iff_getElem?.mp member
    exact known (word, position)
      (List.mem_zipIdx_iff_getElem?.mpr atPosition)
  · rintro known ⟨word, position⟩ member
    exact known word (List.mem_of_getElem?
      (List.mem_zipIdx_iff_getElem?.mp member))

/-- What is found first in a numbered list has nothing before it that would
have been found, and is numbered by how much stands before it. -/
private theorem exists_front_of_find?_zipIdx {α : Type} (test : α → Bool)
    {items : List α} {start : Nat} {item : α} {position : Nat}
    (found : (items.zipIdx start).find? (fun entry => test entry.1) =
      some (item, position)) :
    ∃ front back, items = front ++ item :: back ∧
      position = start + front.length ∧
      (∀ earlier ∈ front, test earlier = false) ∧ test item = true := by
  induction items generalizing start with
  | nil => cases found
  | cons first rest ih =>
      rw [List.zipIdx_cons, List.find?_cons] at found
      by_cases passes : test first = true
      · simp only [passes, Option.some.injEq, Prod.mk.injEq] at found
        obtain ⟨rfl, rfl⟩ := found
        exact ⟨[], rest, rfl, rfl, by simp, passes⟩
      · simp only [passes] at found
        obtain ⟨front, back, rfl, rfl, earlierFail, itemPasses⟩ := ih found
        refine ⟨first :: front, back, rfl, ?_, ?_, itemPasses⟩
        · rw [List.length_cons]
          omega
        · simpa [passes] using earlierFail

theorem exists_front_of_unknownWord? {grammar : Grammar}
    {tokens : List String} {word : String} {position : Nat}
    (found : grammar.unknownWord? tokens = some (word, position)) :
    ∃ front back, tokens = front ++ word :: back ∧ position = front.length ∧
      (∀ earlier ∈ front, earlier ∈ grammar.terminals) ∧
      word ∉ grammar.terminals := by
  obtain ⟨front, back, split, numbered, earlierKnown, unknown⟩ :=
    exists_front_of_find?_zipIdx
      (fun word => (grammar.lexicalCell word).isEmpty) found
  refine ⟨front, back, split, by omega, ?_, isEmpty_lexicalCell_iff.mp unknown⟩
  intro earlier member
  have filled := earlierKnown earlier member
  rwa [Bool.eq_false_iff, ne_eq, isEmpty_lexicalCell_iff,
    Decidable.not_not] at filled

/-- A list of words has a chart if it is not empty, within the limit and known,
and then the chart is the filled one. -/
theorem chart?_eq_ok_iff {grammar : Grammar} {limit : Option Int}
    {tokens : List String} {chart : Chart} :
    grammar.chart? limit tokens = .ok chart ↔
      ∃ words_ne_nil : tokens.map Sentence.lowercase ≠ [],
        WithinLimit limit tokens.length ∧
          (∀ word ∈ tokens.map Sentence.lowercase,
            word ∈ grammar.terminals) ∧
          chart = grammar.fill (tokens.map Sentence.lowercase)
            words_ne_nil := by
  rw [chart?, ← exceeded?_eq_none_iff, ← unknownWord?_eq_none_iff]
  by_cases noTokens : tokens = []
  · simp [noTokens]
  · rw [dif_neg noTokens]
    cases exceeded? limit tokens.length with
    | some most => simp
    | none =>
        simp only [true_and]
        split
        · rename_i unknown
          simp [unknown]
        · rename_i known
          simp [known, noTokens, eq_comm]

theorem exists_chart?_iff {grammar : Grammar} {limit : Option Int}
    {tokens : List String} :
    (∃ chart, grammar.chart? limit tokens = .ok chart) ↔
      tokens ≠ [] ∧ WithinLimit limit tokens.length ∧
        ∀ word ∈ tokens.map Sentence.lowercase, word ∈ grammar.terminals := by
  simp only [chart?_eq_ok_iff]
  constructor
  · rintro ⟨chart, words_ne_nil, within, known, _⟩
    exact ⟨by simpa using words_ne_nil, within, known⟩
  · rintro ⟨tokens_ne_nil, within, known⟩
    exact ⟨_, by simpa using tokens_ne_nil, within, known, rfl⟩

theorem tokens_of_chart? {grammar : Grammar} {limit : Option Int}
    {tokens : List String} {chart : Chart}
    (filled : grammar.chart? limit tokens = .ok chart) :
    chart.tokens = tokens.map Sentence.lowercase := by
  obtain ⟨_, _, _, rfl⟩ := chart?_eq_ok_iff.mp filled
  rfl

end SentenceChart.Grammar
