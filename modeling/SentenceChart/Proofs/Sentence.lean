import SentenceChart.Proofs.Text.Lowercase
import SentenceChart.Sentence

/-!
# The words of a sentence

The words of a text hold its characters that are not blank, in their order
(`flatten_words`).  So a text that is not blank has a word, also after it is
trimmed and set in lower case, and every word of a sentence is lower case.
-/

namespace SentenceChart

namespace Text

/-- The pieces of a text are all of it but its separators. -/
theorem flatten_pieces (isSeparator : Char → Bool) (text : List Char) :
    (pieces isSeparator text).flatten = text.filter (!isSeparator ·) := by
  induction text with
  | nil => rfl
  | cons c rest ih =>
      by_cases separates : isSeparator c = true
      · rw [pieces_cons_of_separator separates, List.flatten_cons, ih]
        simp [separates]
      · have kept : (!isSeparator c) = true := by
          simpa using separates
        rw [pieces, if_neg separates, List.filter_cons, if_pos kept, ← ih]
        cases restPieces : pieces isSeparator rest with
        | nil => exact absurd restPieces (pieces_ne_nil isSeparator rest)
        | cons piece more => rfl

theorem flatten_words (text : List Char) :
    (words text).flatten = text.filter (!isBlank ·) := by
  rw [words, List.flatten_filter_not_isEmpty, flatten_pieces]

theorem mem_of_mem_words {text word : List Char} {c : Char}
    (wordMember : word ∈ words text) (member : c ∈ word) :
    c ∈ text ∧ isBlank c = false := by
  have inWords : c ∈ (words text).flatten :=
    List.mem_flatten.mpr ⟨word, wordMember, member⟩
  rw [flatten_words] at inWords
  simpa using List.mem_filter.mp inWords

theorem ne_nil_of_mem_words {text word : List Char}
    (member : word ∈ words text) : word ≠ [] := by
  rw [words, List.mem_filter] at member
  simpa using member.2

theorem isBlankText_eq_false_iff {text : List Char} :
    isBlankText text = false ↔ ∃ c ∈ text, isBlank c = false := by
  simp [isBlankText]

theorem words_ne_nil {text : List Char} (notBlank : isBlankText text = false) :
    words text ≠ [] := by
  intro noWords
  obtain ⟨c, member, cNotBlank⟩ := isBlankText_eq_false_iff.mp notBlank
  have kept : c ∈ (words text).flatten := by
    rw [flatten_words]
    exact List.mem_filter.mpr ⟨member, by simp [cNotBlank]⟩
  rw [noWords] at kept
  cases kept

private theorem mem_dropWhile_isBlank {text : List Char} {c : Char}
    (member : c ∈ text) (notBlank : isBlank c = false) :
    c ∈ text.dropWhile isBlank := by
  rw [← List.takeWhile_append_dropWhile (p := isBlank) (l := text),
    List.mem_append] at member
  rcases member with front | back
  · have blank := List.all_eq_true.mp List.all_takeWhile c front
    rw [notBlank] at blank
    cases blank
  · exact back

theorem isBlankText_trim {text : List Char}
    (notBlank : isBlankText text = false) :
    isBlankText (trim text) = false := by
  obtain ⟨c, member, cNotBlank⟩ := isBlankText_eq_false_iff.mp notBlank
  refine isBlankText_eq_false_iff.mpr ⟨c, ?_, cNotBlank⟩
  rw [trim, List.mem_reverse]
  apply mem_dropWhile_isBlank _ cNotBlank
  rw [List.mem_reverse]
  exact mem_dropWhile_isBlank member cNotBlank

theorem isBlankText_lowercaseAfter {before text : List Char}
    (notBlank : isBlankText text = false) :
    isBlankText (lowercaseAfter before text) = false := by
  induction text generalizing before with
  | nil => cases notBlank
  | cons c rest ih =>
      rw [lowercaseAfter, isBlankText, List.all_append, Bool.and_eq_false_iff]
      by_cases blank : isBlank c = true
      · right
        apply ih
        simpa [isBlankText, blank] using notBlank
      · left
        rw [Bool.not_eq_true] at blank
        split
        · simp [isBlank_lowerSigma]
        · obtain ⟨form, more, forms⟩ :=
            List.exists_cons_of_ne_nil (lowerChar_ne_nil c)
          have formMember : form ∈ lowerChar c := by
            simp [forms]
          have formNotBlank := not_isBlank_of_mem_lowerChar blank formMember
          simp [forms, formNotBlank]

end Text

namespace Sentence

theorem words_ne_nil {raw : String}
    (notBlank : Text.isBlankText raw.toList = false) : words raw ≠ [] := by
  rw [words, ne_eq, List.map_eq_nil_iff]
  apply Text.words_ne_nil
  exact Text.isBlankText_lowercaseAfter (Text.isBlankText_trim notBlank)

theorem map_lowercase_words (raw : String) :
    (words raw).map lowercase = words raw := by
  rw [words, List.map_map]
  apply List.map_congr_left
  intro word member
  have same : Text.lowercase word = word := by
    apply Text.lowercaseAfter_eq_self
    intro c inWord
    exact Text.isLower_of_mem_lowercaseAfter
      (Text.mem_of_mem_words member inWord).1
  rw [Function.comp, lowercase, String.toList_ofList, same]

end Sentence

end SentenceChart
