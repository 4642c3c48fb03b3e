/-!
# Ranges of code points

Classes of characters are listed as inclusive ranges of code points.  The
membership test runs through the list; `inRanges_iff` says what it decides.
-/

namespace SentenceChart.Text

/-- The code points from `first` to `last`, both included. -/
structure CodeRange where
  /-- The lowest code point of the range. -/
  first : Nat
  /-- The highest code point of the range. -/
  last : Nat

/-- Whether a character lies in the range. -/
def CodeRange.holds (range : CodeRange) (c : Char) : Bool :=
  decide (range.first ≤ c.toNat) && decide (c.toNat ≤ range.last)

/-- Whether a character lies in one of the ranges. -/
def inRanges (ranges : List CodeRange) (c : Char) : Bool :=
  ranges.any (·.holds c)

theorem CodeRange.holds_iff {range : CodeRange} {c : Char} :
    range.holds c = true ↔ range.first ≤ c.toNat ∧ c.toNat ≤ range.last := by
  simp [CodeRange.holds]

theorem inRanges_iff {ranges : List CodeRange} {c : Char} :
    inRanges ranges c = true ↔
      ∃ range ∈ ranges, range.first ≤ c.toNat ∧ c.toNat ≤ range.last := by
  simp [inRanges, CodeRange.holds_iff]

end SentenceChart.Text
