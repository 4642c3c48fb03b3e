import SentenceChart.Text.CodeRange

/-!
# Lines

A line ends at a line feed, a carriage return, the two together, or one of
the other boundaries that Unicode and ASCII know.  What follows the last
boundary is a line only if it is not empty.
-/

namespace SentenceChart.Text

/-- The characters that end a line. -/
def lineEndRanges : List CodeRange :=
  [⟨0xA, 0xD⟩, ⟨0x1C, 0x1E⟩, ⟨0x85, 0x85⟩, ⟨0x2028, 0x2029⟩]

/-- A character that ends a line. -/
def isLineEnd (c : Char) : Bool :=
  inRanges lineEndRanges c

/-- The lines of a text without their ends. -/
def lines : List Char → List (List Char)
  | [] => []
  | '\r' :: '\n' :: rest => [] :: lines rest
  | c :: rest =>
      if isLineEnd c then
        [] :: lines rest
      else
        match lines rest with
        | [] => [[c]]
        | line :: more => (c :: line) :: more

end SentenceChart.Text
