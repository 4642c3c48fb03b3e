import SentenceChart.Text.Blank
import SentenceChart.Text.Lowercase

/-!
# Lower case is reached at once

No run of the lower-case table covers a code point that the table gives, so a
lower-case text is its own lower-case form.  The table gives characters only,
and no blank ones.
-/

namespace SentenceChart.Text

namespace CaseRun

/-- The last code point that the run gives. -/
def lastImage (run : CaseRun) : Nat :=
  run.image + (run.last - run.first)

/-- Whether the forms that the run gives lie outside the range. -/
def avoids (run : CaseRun) (range : CodeRange) : Bool :=
  decide (run.lastImage < range.first) || decide (range.last < run.image)

/-- Whether the forms that the run gives are passed over by another run: they
lie outside it or between its code points. -/
def misses (run other : CaseRun) : Bool :=
  run.avoids ⟨other.first, other.last⟩ ||
    (other.step == 2 && (run.step == 2 || run.first == run.last) &&
      (run.image + other.first) % 2 == 1)

variable {run other : CaseRun} {code : Nat}

theorem covers_iff :
    run.covers code = true ↔
      run.first ≤ code ∧ code ≤ run.last ∧
        (code - run.first) % run.step = 0 := by
  simp [covers, and_assoc]

theorem lower_bounds (covered : run.covers code = true) :
    run.image ≤ run.lower code ∧ run.lower code ≤ run.lastImage := by
  have bounds := covers_iff.mp covered
  rw [lower, lastImage]
  omega

theorem not_holds_of_avoids {range : CodeRange}
    (avoided : run.avoids range = true) (covered : run.covers code = true) :
    ¬(range.first ≤ run.lower code ∧ run.lower code ≤ range.last) := by
  have bounds := lower_bounds covered
  simp only [avoids, Bool.or_eq_true, decide_eq_true_eq] at avoided
  omega

theorem not_covers_of_misses (missed : run.misses other = true)
    (covered : run.covers code = true) :
    other.covers (run.lower code) = false := by
  rw [Bool.eq_false_iff]
  intro coveredAgain
  obtain ⟨low, high, aligned⟩ := covers_iff.mp coveredAgain
  rw [misses, Bool.or_eq_true] at missed
  rcases missed with avoided | between
  · exact not_holds_of_avoids avoided covered ⟨low, high⟩
  · obtain ⟨first_le, le_last, alignedFirst⟩ := covers_iff.mp covered
    simp only [Bool.and_eq_true, Bool.or_eq_true, beq_iff_eq] at between
    obtain ⟨⟨otherStep, narrow⟩, odd⟩ := between
    have even : (code - run.first) % 2 = 0 := by
      rcases narrow with runStep | single
      · rwa [runStep] at alignedFirst
      · omega
    rw [otherStep] at aligned
    rw [lower] at low aligned
    omega

end CaseRun

/-- The code points that no lower-case form may have: the dotted capital I,
those that are no characters, and the blanks. -/
def excludedRanges : List CodeRange :=
  ⟨0x130, 0x130⟩ :: ⟨0xD800, 0xDFFF⟩ :: blankRanges

theorem misses_of_mem {run other : CaseRun} (member : run ∈ caseRuns)
    (otherMember : other ∈ caseRuns) : run.misses other = true := by
  have table :
      (caseRuns.all fun run => caseRuns.all run.misses) = true := by
    decide +kernel
  exact List.all_eq_true.mp (List.all_eq_true.mp table run member) other
    otherMember

theorem avoids_of_mem {run : CaseRun} {range : CodeRange}
    (member : run ∈ caseRuns) (excluded : range ∈ excludedRanges) :
    run.avoids range = true := by
  have table :
      (caseRuns.all fun run => excludedRanges.all run.avoids) = true := by
    decide +kernel
  exact List.all_eq_true.mp (List.all_eq_true.mp table run member) range
    excluded

theorem lastImage_lt {run : CaseRun} (member : run ∈ caseRuns) :
    run.lastImage < 0x110000 := by
  have table :
      (caseRuns.all fun run => decide (run.lastImage < 0x110000)) = true := by
    decide +kernel
  exact of_decide_eq_true (List.all_eq_true.mp table run member)

/-- A code point stands still, or a run covers it and gives its form. -/
theorem simpleLower_cases (code : Nat) :
    simpleLower code = code ∧
        (∀ run ∈ caseRuns, run.covers code = false) ∨
      ∃ run ∈ caseRuns, run.covers code = true ∧
        simpleLower code = run.lower code := by
  rw [simpleLower]
  split
  · rename_i run found
    have covered := List.find?_some found
    exact .inr ⟨run, List.mem_of_find?_eq_some found, covered, rfl⟩
  · rename_i notFound
    refine .inl ⟨rfl, fun run member => ?_⟩
    exact Bool.eq_false_iff.mpr (List.find?_eq_none.mp notFound run member)

theorem simpleLower_eq_self {code : Nat}
    (uncovered : ∀ run ∈ caseRuns, run.covers code = false) :
    simpleLower code = code := by
  rcases simpleLower_cases code with ⟨same, _⟩ | ⟨run, member, covered, _⟩
  · exact same
  · rw [uncovered run member] at covered
    cases covered

theorem simpleLower_simpleLower (code : Nat) :
    simpleLower (simpleLower code) = simpleLower code := by
  rcases simpleLower_cases code with ⟨same, _⟩ | ⟨run, member, covered, given⟩
  · rw [same, same]
  · rw [given]
    apply simpleLower_eq_self
    intro other otherMember
    exact CaseRun.not_covers_of_misses (misses_of_mem member otherMember)
      covered

/-- Only a code point of an excluded range has its form there. -/
theorem holds_of_simpleLower {range : CodeRange}
    (excluded : range ∈ excludedRanges) {code : Nat}
    (held : range.first ≤ simpleLower code ∧
      simpleLower code ≤ range.last) :
    range.first ≤ code ∧ code ≤ range.last := by
  rcases simpleLower_cases code with ⟨same, _⟩ | ⟨run, member, covered, given⟩
  · rwa [same] at held
  · rw [given] at held
    exact absurd held
      (CaseRun.not_holds_of_avoids (avoids_of_mem member excluded) covered)

theorem isValidChar_simpleLower (c : Char) :
    (simpleLower c.toNat).isValidChar := by
  have valid : c.toNat.isValidChar := c.valid
  rcases simpleLower_cases c.toNat with ⟨same, _⟩ | ⟨run, member, covered, given⟩
  · rwa [same]
  · have bounds := CaseRun.lower_bounds covered
    have small := lastImage_lt member
    have surrogates : (⟨0xD800, 0xDFFF⟩ : CodeRange) ∈ excludedRanges := by
      simp [excludedRanges]
    have noSurrogate : ¬(0xD800 ≤ run.lower c.toNat ∧
        run.lower c.toNat ≤ 0xDFFF) :=
      CaseRun.not_holds_of_avoids (avoids_of_mem member surrogates) covered
    rw [given, Nat.isValidChar]
    omega

theorem toNat_ofNat_simpleLower (c : Char) :
    (Char.ofNat (simpleLower c.toNat)).toNat = simpleLower c.toNat := by
  rw [Char.ofNat, dif_pos (isValidChar_simpleLower c)]
  rfl

/-- The character is its own lower-case form wherever it stands. -/
def IsLower (c : Char) : Prop :=
  c ≠ '\u0130' ∧ simpleLower c.toNat = c.toNat

theorem IsLower.ne_sigma {c : Char} (isLower : IsLower c) : c ≠ 'Σ' := by
  rintro rfl
  exact absurd isLower.2 (by decide)

theorem IsLower.lowerChar_eq {c : Char} (isLower : IsLower c) :
    lowerChar c = [c] := by
  rw [lowerChar, if_neg isLower.1, isLower.2, Char.ofNat_toNat]

theorem lowerChar_ne_nil (c : Char) : lowerChar c ≠ [] := by
  rw [lowerChar]
  split
  · exact List.cons_ne_nil _ _
  · exact List.cons_ne_nil _ _

theorem isLower_of_mem_lowerChar {c lower : Char}
    (member : lower ∈ lowerChar c) : IsLower lower := by
  rw [lowerChar] at member
  split at member
  · simp only [List.mem_cons, List.not_mem_nil, or_false] at member
    rcases member with rfl | rfl
    · exact ⟨by decide, by decide⟩
    · exact ⟨by decide, by decide⟩
  · rename_i notDotted
    cases List.mem_singleton.mp member
    constructor
    · intro dotted
      have form : simpleLower c.toNat = 0x130 := by
        rw [← toNat_ofNat_simpleLower, dotted]
        rfl
      have excluded : (⟨0x130, 0x130⟩ : CodeRange) ∈ excludedRanges := by
        simp [excludedRanges]
      have held : 0x130 ≤ c.toNat ∧ c.toNat ≤ 0x130 :=
        holds_of_simpleLower excluded (by simp [form])
      apply notDotted
      rw [← Char.ofNat_toNat c, Nat.le_antisymm held.2 held.1]
    · rw [toNat_ofNat_simpleLower, simpleLower_simpleLower]

theorem lowerSigma_cases (before after : List Char) :
    lowerSigma before after = 'ς' ∨ lowerSigma before after = 'σ' := by
  rw [lowerSigma]
  split
  · exact .inl rfl
  · exact .inr rfl

theorem isLower_lowerSigma (before after : List Char) :
    IsLower (lowerSigma before after) := by
  rcases lowerSigma_cases before after with final | inner
  · rw [final]
    exact ⟨by decide, by decide⟩
  · rw [inner]
    exact ⟨by decide, by decide⟩

theorem isLower_of_mem_lowercaseAfter {before text : List Char} {c : Char}
    (member : c ∈ lowercaseAfter before text) : IsLower c := by
  induction text generalizing before with
  | nil => cases member
  | cons first rest ih =>
      rw [lowercaseAfter, List.mem_append] at member
      rcases member with here | later
      · split at here
        · cases List.mem_singleton.mp here
          exact isLower_lowerSigma before rest
        · exact isLower_of_mem_lowerChar here
      · exact ih later

theorem lowercaseAfter_eq_self {before text : List Char}
    (isLower : ∀ c ∈ text, IsLower c) : lowercaseAfter before text = text := by
  induction text generalizing before with
  | nil => rfl
  | cons first rest ih =>
      have firstLower : IsLower first := isLower first List.mem_cons_self
      rw [lowercaseAfter, if_neg firstLower.ne_sigma, firstLower.lowerChar_eq,
        ih fun c member => isLower c (List.mem_cons_of_mem _ member)]
      rfl

theorem lowercase_lowercase (text : List Char) :
    lowercase (lowercase text) = lowercase text :=
  lowercaseAfter_eq_self fun _ => isLower_of_mem_lowercaseAfter

theorem isBlank_lowerSigma (before after : List Char) :
    isBlank (lowerSigma before after) = false := by
  rcases lowerSigma_cases before after with final | inner
  · rw [final]
    decide
  · rw [inner]
    decide

theorem not_isBlank_of_mem_lowerChar {c lower : Char}
    (notBlank : isBlank c = false) (member : lower ∈ lowerChar c) :
    isBlank lower = false := by
  rw [lowerChar] at member
  split at member
  · simp only [List.mem_cons, List.not_mem_nil, or_false] at member
    rcases member with rfl | rfl
    · decide
    · decide
  · cases List.mem_singleton.mp member
    rw [Bool.eq_false_iff] at notBlank ⊢
    intro blank
    obtain ⟨range, inTable, held⟩ := inRanges_iff.mp blank
    rw [toNat_ofNat_simpleLower] at held
    have excluded : range ∈ excludedRanges :=
      List.mem_cons_of_mem _ (List.mem_cons_of_mem _ inTable)
    exact notBlank
      (inRanges_iff.mpr ⟨range, inTable, holds_of_simpleLower excluded held⟩)

end SentenceChart.Text
