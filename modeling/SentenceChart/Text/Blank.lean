import SentenceChart.Text.CodeRange

/-!
# Blank characters, trimming and words

A text falls into pieces at its separators, empty pieces included, and its
words are the pieces that are not empty.  `pieces_append_cons` is the law
from which every statement about words follows: cutting at a separator cuts
the list of pieces.
-/

namespace SentenceChart.Text

/-- The blank characters: the ASCII and Unicode spaces, tabulators, line and
page ends, and the four information separators. -/
def blankRanges : List CodeRange :=
  [⟨0x9, 0xD⟩, ⟨0x1C, 0x20⟩, ⟨0x85, 0x85⟩, ⟨0xA0, 0xA0⟩, ⟨0x1680, 0x1680⟩,
    ⟨0x2000, 0x200A⟩, ⟨0x2028, 0x2029⟩, ⟨0x202F, 0x202F⟩,
    ⟨0x205F, 0x205F⟩, ⟨0x3000, 0x3000⟩]

/-- A character that separates words. -/
def isBlank (c : Char) : Bool :=
  inRanges blankRanges c

/-- A text of blank characters only; the empty text is one. -/
def isBlankText (text : List Char) : Bool :=
  text.all isBlank

/-- The text without the blanks before its first and after its last other
character. -/
def trim (text : List Char) : List Char :=
  ((text.dropWhile isBlank).reverse.dropWhile isBlank).reverse

/-- The pieces of a text between its separators, empty ones included. -/
def pieces (isSeparator : Char → Bool) : List Char → List (List Char)
  | [] => [[]]
  | c :: rest =>
      if isSeparator c then
        [] :: pieces isSeparator rest
      else
        match pieces isSeparator rest with
        | [] => [[c]]
        | piece :: more => (c :: piece) :: more

/-- The words of a text: its longest runs of characters that are not blank. -/
def words (text : List Char) : List (List Char) :=
  (pieces isBlank text).filter (!·.isEmpty)

theorem pieces_ne_nil (isSeparator : Char → Bool) (text : List Char) :
    pieces isSeparator text ≠ [] := by
  cases text with
  | nil => simp [pieces]
  | cons c rest =>
      rw [pieces]
      split
      · exact List.cons_ne_nil _ _
      · split <;> exact List.cons_ne_nil _ _

theorem pieces_cons_of_separator {isSeparator : Char → Bool} {c : Char}
    (separates : isSeparator c = true) (rest : List Char) :
    pieces isSeparator (c :: rest) = [] :: pieces isSeparator rest := by
  rw [pieces, if_pos separates]

/-- A separator cuts the list of pieces in two. -/
theorem pieces_append_cons {isSeparator : Char → Bool} {c : Char}
    (separates : isSeparator c = true) (front rest : List Char) :
    pieces isSeparator (front ++ c :: rest) =
      pieces isSeparator front ++ pieces isSeparator rest := by
  induction front with
  | nil => simpa [pieces] using pieces_cons_of_separator separates rest
  | cons d front ih =>
      rw [List.cons_append, pieces, pieces, ih]
      split
      · rfl
      · cases frontPieces : pieces isSeparator front with
        | nil => exact absurd frontPieces (pieces_ne_nil isSeparator front)
        | cons piece more => rfl

/-- A blank between two texts separates their words. -/
theorem words_append_cons {c : Char} (blank : isBlank c = true)
    (front rest : List Char) :
    words (front ++ c :: rest) = words front ++ words rest := by
  simp [words, pieces_append_cons blank]

end SentenceChart.Text
