import SentenceChart.Checker
import SentenceChart.Proofs.Sentence
import SentenceChart.Proofs.Text.Splitting

/-!
# A text and its words

A chart is filled for the lower-case forms of a list of words and for nothing
else of it (`chart?_congr`).  The lower-case words of a text are the lower-case
forms of its words as they stand, so a text and the list of its words have the
same chart and the same verdict.
-/

namespace SentenceChart

namespace Sentence

/-- The words of a text as they stand. -/
def rawWords (raw : String) : List String :=
  (Text.words raw.toList).map String.ofList

theorem map_lowercase_rawWords (raw : String) :
    (rawWords raw).map lowercase = words raw := by
  rw [rawWords, words, Text.words_lowercase, Text.words_trim, List.map_map,
    List.map_map]
  apply List.map_congr_left
  intro word _
  rw [Function.comp, lowercase, String.toList_ofList]
  rfl

end Sentence

theorem Grammar.chart?_congr (grammar : Grammar) (limit : Option Int)
    {tokens others : List String}
    (same : tokens.map Sentence.lowercase = others.map Sentence.lowercase) :
    grammar.chart? limit tokens = grammar.chart? limit others := by
  have sameLength : tokens.length = others.length := by
    rw [← List.length_map Sentence.lowercase, same, List.length_map]
  have bothEmpty : tokens = [] ↔ others = [] := by
    rw [← List.length_eq_zero_iff, sameLength, List.length_eq_zero_iff]
  by_cases empty : tokens = []
  · rw [empty, bothEmpty.mp empty]
  · have othersNonempty : others ≠ [] := mt bothEmpty.mpr empty
    simp only [chart?, empty, othersNonempty, dite_false, sameLength, same]

namespace Checker

variable {checker : Checker}

theorem checkTokens_congr {tokens others : List String}
    (same : tokens.map Sentence.lowercase = others.map Sentence.lowercase) :
    checker.checkTokens tokens = checker.checkTokens others := by
  rw [checkTokens, checkTokens, examineTokens, examineTokens, chart?, chart?,
    Grammar.chart?_congr _ _ same]

theorem check_of_not_blank {raw : String}
    (notBlank : Text.isBlankText raw.toList = false) :
    checker.check (some raw) = checker.checkTokens (Sentence.words raw) := by
  have notBlank' : ¬Text.isBlankText raw.toList = true := by
    simp [notBlank]
  rw [check, examine, Sentence.words?, if_neg notBlank']
  rfl

/-- It does not matter whether a text is set in lower case before it is split
into words or its words are afterwards: the words, the chart and the verdict are
the same. -/
theorem check_eq_checkTokens_rawWords (checker : Checker) {raw : String}
    (notBlank : ∃ c ∈ raw.toList, Text.isBlank c = false) :
    (Sentence.words raw).map Sentence.lowercase =
        (Sentence.rawWords raw).map Sentence.lowercase ∧
      (Sentence.rawWords raw).map Sentence.lowercase = Sentence.words raw ∧
      checker.chart? (Sentence.words raw) =
        checker.chart? (Sentence.rawWords raw) ∧
      checker.check (some raw) =
        checker.checkTokens (Sentence.rawWords raw) := by
  have split := Sentence.map_lowercase_rawWords raw
  have same : (Sentence.words raw).map Sentence.lowercase =
      (Sentence.rawWords raw).map Sentence.lowercase := by
    rw [Sentence.map_lowercase_words, split]
  refine ⟨same, split, Grammar.chart?_congr _ _ same, ?_⟩
  rw [check_of_not_blank (Text.isBlankText_eq_false_iff.mpr notBlank)]
  exact checkTokens_congr same

/-- A capital sigma before a wide space takes its final form, and the dotted
capital I becomes two characters. -/
theorem check_eq_checkTokens_rawWords_sigma :
    (∃ c ∈ " ΟΔΟΣ\u3000İS ".toList, Text.isBlank c = false) ∧
      Sentence.words " ΟΔΟΣ\u3000İS " = ["οδος", "i\u0307s"] ∧
      standard.check (some " ΟΔΟΣ\u3000İS ") =
        standard.checkTokens ["ΟΔΟΣ", "İS"] := by
  have notBlank :
      ∃ c ∈ " ΟΔΟΣ\u3000İS ".toList, Text.isBlank c = false :=
    ⟨'Σ', by decide, by decide⟩
  obtain ⟨_, split, _, verdict⟩ :=
    check_eq_checkTokens_rawWords standard notBlank
  have asTheyStand :
      Sentence.rawWords " ΟΔΟΣ\u3000İS " = ["ΟΔΟΣ", "İS"] := by
    decide
  rw [asTheyStand] at split verdict
  refine ⟨notBlank, ?_, verdict⟩
  rw [← split]
  decide +kernel

end Checker

end SentenceChart
