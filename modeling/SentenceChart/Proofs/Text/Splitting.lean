import SentenceChart.Proofs.Text.Lowercase

/-!
# Lower case and words

A blank has no other lower-case form and is passed over by no search for a
neighbouring letter.  So a text on one side of a blank does not see the other
side (`lowercase_append_cons`), and its words may be taken before or after it is
set in lower case (`words_lowercase`).  Blanks around a text or between two texts
belong to no word, so trimming keeps the words (`words_trim`).
-/

namespace SentenceChart.Text

/-- Whether two ranges have no code point in common. -/
def CodeRange.isApart (range other : CodeRange) : Bool :=
  decide (range.last < other.first) || decide (other.last < range.first)

/-- The code points between the ends of a run. -/
def CaseRun.span (run : CaseRun) : CodeRange :=
  ⟨run.first, run.last⟩

theorem inRanges_eq_false_of_isApart {ranges others : List CodeRange}
    (apart : (ranges.all fun range => others.all range.isApart) = true)
    {c : Char} (inside : inRanges ranges c = true) :
    inRanges others c = false := by
  rw [Bool.eq_false_iff]
  intro insideToo
  obtain ⟨range, member, held⟩ := inRanges_iff.mp inside
  obtain ⟨other, otherMember, otherHeld⟩ := inRanges_iff.mp insideToo
  have away := List.all_eq_true.mp (List.all_eq_true.mp apart range member)
    other otherMember
  simp only [CodeRange.isApart, Bool.or_eq_true, decide_eq_true_eq] at away
  omega

section Blank

variable {c : Char} (blank : isBlank c = true)

include blank

theorem isCaseIgnorable_of_isBlank : isCaseIgnorable c = false :=
  inRanges_eq_false_of_isApart (by decide +kernel) blank

theorem isCased_of_isBlank : isCased c = false :=
  inRanges_eq_false_of_isApart (by decide +kernel) blank

theorem isLower_of_isBlank : IsLower c := by
  constructor
  · rintro rfl
    exact absurd blank (by decide)
  · apply simpleLower_eq_self
    intro run member
    rw [Bool.eq_false_iff]
    intro covered
    obtain ⟨low, high, _⟩ := CaseRun.covers_iff.mp covered
    have outside : inRanges (caseRuns.map CaseRun.span) c = false :=
      inRanges_eq_false_of_isApart (by decide +kernel) blank
    have inside : inRanges (caseRuns.map CaseRun.span) c = true :=
      inRanges_iff.mpr ⟨run.span, List.mem_map_of_mem member, low, high⟩
    rw [outside] at inside
    cases inside

theorem beginsCased_append_cons (front rest : List Char) :
    beginsCased (front ++ c :: rest) = beginsCased front := by
  have passes := isCaseIgnorable_of_isBlank blank
  have uncased := isCased_of_isBlank blank
  induction front with
  | nil => simp [beginsCased, passes, uncased]
  | cons d front ih =>
      by_cases ignored : isCaseIgnorable d = true
      · simpa [beginsCased, ignored] using ih
      · simp [beginsCased, ignored]

/-- What follows a blank does not matter before it. -/
theorem lowercaseAfter_append_cons (before front rest : List Char) :
    lowercaseAfter before (front ++ c :: rest) =
      lowercaseAfter before front ++
        lowercaseAfter (front.reverse ++ before) (c :: rest) := by
  induction front generalizing before with
  | nil => rfl
  | cons d front ih =>
      have sigma : lowerSigma before (front ++ c :: rest) =
          lowerSigma before front := by
        rw [lowerSigma, lowerSigma, beginsCased_append_cons blank]
      simp [lowercaseAfter, sigma, ih]

/-- What precedes a blank does not matter after it. -/
theorem lowercaseAfter_append_cons_left (near before rest : List Char) :
    lowercaseAfter (near ++ c :: before) rest = lowercaseAfter near rest := by
  induction rest generalizing near with
  | nil => rfl
  | cons d rest ih =>
      have sigma : lowerSigma (near ++ c :: before) rest =
          lowerSigma near rest := by
        rw [lowerSigma, lowerSigma, beginsCased_append_cons blank]
      have moved := ih (d :: near)
      rw [List.cons_append] at moved
      rw [lowercaseAfter, lowercaseAfter, sigma, moved]

theorem lowercase_append_cons (front rest : List Char) :
    lowercase (front ++ c :: rest) = lowercase front ++ c :: lowercase rest := by
  have isLower := isLower_of_isBlank blank
  have forgotten := lowercaseAfter_append_cons_left blank [] front.reverse rest
  rw [List.nil_append] at forgotten
  rw [lowercase, lowercaseAfter_append_cons blank, List.append_nil,
    lowercaseAfter, if_neg isLower.ne_sigma, isLower.lowerChar_eq, forgotten]
  rfl

theorem words_cons (rest : List Char) : words (c :: rest) = words rest :=
  words_append_cons blank [] rest

end Blank

section Gap

variable {gap : List Char} (blank : isBlankText gap = true)

include blank

theorem words_blank_append (rest : List Char) :
    words (gap ++ rest) = words rest := by
  induction gap with
  | nil => rfl
  | cons c gap ih =>
      rw [isBlankText, List.all_cons, Bool.and_eq_true] at blank
      rw [List.cons_append, words_cons blank.1]
      exact ih blank.2

theorem words_append_gap_append (nonempty : gap ≠ [])
    (front rest : List Char) :
    words (front ++ gap ++ rest) = words front ++ words rest := by
  cases gap with
  | nil => exact absurd rfl nonempty
  | cons c gap =>
      rw [isBlankText, List.all_cons, Bool.and_eq_true] at blank
      rw [List.append_assoc, List.cons_append, words_append_cons blank.1,
        words_blank_append blank.2]

theorem words_append_blank (front : List Char) :
    words (front ++ gap) = words front := by
  by_cases empty : gap = []
  · rw [empty, List.append_nil]
  · have separated := words_append_gap_append blank empty front []
    have noWords : words [] = [] := rfl
    rwa [List.append_nil, noWords, List.append_nil] at separated

end Gap

theorem pieces_of_no_separator {isSeparator : Char → Bool} {text : List Char}
    (none : ∀ c ∈ text, isSeparator c = false) :
    pieces isSeparator text = [text] := by
  induction text with
  | nil => rfl
  | cons c rest ih =>
      have kept : ¬isSeparator c = true := by
        simp [none c List.mem_cons_self]
      rw [pieces, if_neg kept,
        ih fun d member => none d (List.mem_cons_of_mem _ member)]

theorem words_of_no_blank {text : List Char} (nonempty : text ≠ [])
    (none : ∀ c ∈ text, isBlank c = false) : words text = [text] := by
  rw [words, pieces_of_no_separator none]
  simp [nonempty]

theorem lowercaseAfter_ne_nil {before text : List Char} (nonempty : text ≠ []) :
    lowercaseAfter before text ≠ [] := by
  cases text with
  | nil => exact absurd rfl nonempty
  | cons c rest =>
      rw [lowercaseAfter]
      split
      · exact List.cons_ne_nil _ _
      · exact List.append_ne_nil_of_left_ne_nil (lowerChar_ne_nil c) _

theorem not_isBlank_of_mem_lowercaseAfter {before text : List Char}
    (none : ∀ c ∈ text, isBlank c = false) :
    ∀ lower ∈ lowercaseAfter before text, isBlank lower = false := by
  induction text generalizing before with
  | nil => simp [lowercaseAfter]
  | cons c rest ih =>
      intro lower member
      rw [lowercaseAfter, List.mem_append] at member
      rcases member with here | later
      · split at here
        · cases List.mem_singleton.mp here
          exact isBlank_lowerSigma before rest
        · exact not_isBlank_of_mem_lowerChar (none c List.mem_cons_self) here
      · exact ih (fun d inRest => none d (List.mem_cons_of_mem _ inRest))
          lower later

private theorem words_lowercase_of_no_blank {text : List Char}
    (none : ∀ c ∈ text, isBlank c = false) :
    words (lowercase text) = (words text).map lowercase := by
  by_cases empty : text = []
  · rw [empty]
    rfl
  · have lowerNonempty : lowercase text ≠ [] := lowercaseAfter_ne_nil empty
    have lowerNone : ∀ c ∈ lowercase text, isBlank c = false :=
      not_isBlank_of_mem_lowercaseAfter none
    rw [words_of_no_blank empty none,
      words_of_no_blank lowerNonempty lowerNone]
    rfl

/-- The law for a text that begins with a run without blanks.  The run grows
until a blank ends it. -/
private theorem words_lowercase_append (text : List Char) :
    ∀ run : List Char, (∀ c ∈ run, isBlank c = false) →
      words (lowercase (run ++ text)) =
        (words (run ++ text)).map lowercase := by
  induction text with
  | nil =>
      intro run none
      rw [List.append_nil]
      exact words_lowercase_of_no_blank none
  | cons c rest ih =>
      intro run none
      by_cases blank : isBlank c = true
      · have restWords := ih [] (by simp)
        rw [List.nil_append] at restWords
        rw [lowercase_append_cons blank, words_append_cons blank,
          words_append_cons blank, List.map_append,
          words_lowercase_of_no_blank none, restWords]
      · have longer : run ++ c :: rest = (run ++ [c]) ++ rest := by
          simp
        rw [longer]
        apply ih
        intro d member
        rcases List.mem_append.mp member with earlier | last
        · exact none d earlier
        · cases List.mem_singleton.mp last
          exact Bool.eq_false_iff.mpr blank

/-- The words of a text in lower case are its words, each set in lower case. -/
theorem words_lowercase (text : List Char) :
    words (lowercase text) = (words text).map lowercase :=
  words_lowercase_append text [] (by simp)

theorem words_dropWhile (text : List Char) :
    words (text.dropWhile isBlank) = words text := by
  have blank : isBlankText (text.takeWhile isBlank) = true :=
    List.all_takeWhile
  rw [← words_blank_append blank, List.takeWhile_append_dropWhile]

theorem words_reverse_dropWhile (text : List Char) :
    words (text.dropWhile isBlank).reverse = words text.reverse := by
  have blank : isBlankText (text.takeWhile isBlank).reverse = true := by
    rw [isBlankText, List.all_reverse]
    exact List.all_takeWhile
  rw [← words_append_blank blank, ← List.reverse_append,
    List.takeWhile_append_dropWhile]

theorem words_trim (text : List Char) : words (trim text) = words text := by
  rw [trim, words_reverse_dropWhile, List.reverse_reverse, words_dropWhile]

end SentenceChart.Text
