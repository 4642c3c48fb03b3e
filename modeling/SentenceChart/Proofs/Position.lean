import SentenceChart.Proofs.Decision

/-!
# Where a refusal points

A refusal has the position of a word of its sentence, and the word that it names
stands there: the first unknown word, the first word over the limit, or the first
word of all.  A limit below zero has no first word over it, and then the position
is outside the sentence.  This is the only exception.
-/

namespace SentenceChart

/-- The position is the place of one of the words, and the word that is named
stands there. -/
def Refusal.PointsInto (refusal : Refusal) (words : List String) : Prop :=
  ∃ place : Nat, refusal.position = place ∧ place < words.length ∧
    ∀ word, refusal.word = some word → words[place]? = some word

theorem Grammar.WithinLimit.limit_nonneg {limit : Option Int} {length : Nat}
    (within : WithinLimit limit length) :
    ∀ most, limit = some most → 0 ≤ most := by
  intro most limited
  have room := within most limited
  omega

namespace Checker

variable {checker : Checker} {refusal : Refusal}

theorem DecidesWords.pointsInto_iff {words : List String} {outcome : Outcome}
    (nonempty : words ≠ [])
    (decides : checker.DecidesWords words outcome (.invalid refusal)) :
    refusal.PointsInto words ↔
      ∀ most, checker.limit = some most → 0 ≤ most := by
  cases decides with
  | @tooLong most limited exceeds _ =>
      rw [limited]
      constructor
      · rintro ⟨place, positionEq, _⟩ _ ⟨⟩
        simp only at positionEq
        omega
      · intro notNegative
        have positive := notNegative most rfl
        refine ⟨most.toNat, (Int.toNat_of_nonneg positive).symm, by omega, ?_⟩
        intro word named
        cases named
  | @unknownWord front back word within split =>
      refine iff_of_true ⟨front.length, rfl, ?_, ?_⟩
        within.limit_nonneg
      · simp [split]
      · rintro _ ⟨⟩
        simp [split]
  | underivable within =>
      refine iff_of_true ⟨0, rfl, List.length_pos_iff.mpr nonempty, ?_⟩
        within.limit_nonneg
      intro word named
      cases named

/-- A refusal of a sentence that is not blank points at one of its words, unless
the limit is below zero. -/
theorem refusal_pointsInto_iff {raw : String}
    (notBlank : ∃ c ∈ raw.toList, Text.isBlank c = false)
    (refused : checker.check (some raw) = .invalid refusal) :
    refusal.PointsInto (Sentence.words raw) ↔
      ∀ most, checker.limit = some most → 0 ≤ most := by
  obtain ⟨outcome, decides⟩ := checker.decides_check (some raw)
  rw [refused] at decides
  have nonempty :=
    Sentence.words_ne_nil (Text.isBlankText_eq_false_iff.mpr notBlank)
  cases decides with
  | blank blank =>
      obtain ⟨c, member, cNotBlank⟩ := notBlank
      rw [blank raw rfl c member] at cNotBlank
      cases cNotBlank
  | words _ decidesWords => exact decidesWords.pointsInto_iff nonempty

/-- A word that names a nonterminal before it is set in lower case is pointed at,
and a limit of zero points at the first word. -/
theorem refusal_pointsInto_iff_cyclic :
    (∃ c ∈ " Go\tS ".toList, Text.isBlank c = false) ∧
      cyclic.check (some " Go\tS ") =
        .invalid ⟨"Unknown word: \"s\"", 1, some "s", .unknownWord⟩ ∧
      Refusal.PointsInto ⟨"Unknown word: \"s\"", 1, some "s", .unknownWord⟩
        (Sentence.words " Go\tS ") ∧
      (mk Grammar.cyclic (some 0)).check (some " Go\tS ") =
        .invalid ⟨"Sentence too long: 2 words (maximum 0)", 0, none,
          .inputTooLong⟩ ∧
      Refusal.PointsInto
        ⟨"Sentence too long: 2 words (maximum 0)", 0, none, .inputTooLong⟩
        (Sentence.words " Go\tS ") := by
  have notBlank : ∃ c ∈ " Go\tS ".toList, Text.isBlank c = false :=
    ⟨'G', by decide, by decide⟩
  have unknown : cyclic.check (some " Go\tS ") =
      .invalid ⟨"Unknown word: \"s\"", 1, some "s", .unknownWord⟩ := by
    decide +kernel
  have tooLong : (mk Grammar.cyclic (some 0)).check (some " Go\tS ") =
      .invalid ⟨"Sentence too long: 2 words (maximum 0)", 0, none,
        .inputTooLong⟩ := by
    decide +kernel
  refine ⟨notBlank, unknown, ?_, tooLong, ?_⟩
  · apply (refusal_pointsInto_iff notBlank unknown).mpr
    rintro _ ⟨⟩
    decide
  · apply (refusal_pointsInto_iff notBlank tooLong).mpr
    rintro _ ⟨⟩
    decide

/-- A sentence is refused at a position outside of it if the limit is below
zero. -/
theorem not_pointsInto_negative :
    (∃ c ∈ "The dog".toList, Text.isBlank c = false) ∧
      Sentence.words "The dog" = ["the", "dog"] ∧
      ∃ refusal : Refusal,
        (mk Grammar.toy (some (-1))).check (some "The dog") =
            .invalid refusal ∧
          refusal.position = -1 ∧ ¬refusal.PointsInto ["the", "dog"] := by
  refine ⟨⟨'T', by decide, by decide⟩, by decide +kernel, ?_⟩
  refine ⟨⟨"Sentence too long: 2 words (maximum -1)", -1, none,
    .inputTooLong⟩, by decide +kernel, rfl, ?_⟩
  rintro ⟨place, positionEq, _⟩
  simp only at positionEq
  omega

end Checker

end SentenceChart
