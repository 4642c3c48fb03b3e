import SentenceChart.Text.Line

/-!
# Lines and their ends

A text of lines with a line feed after each of them falls into these lines again
(`endedLines_flatMap`).  Where lines can have other ends, a line without one of
them inside is followed by its end and the lines of the rest
(`lines_append_lineEnd`).  Putting a line feed in the place of every carriage
return, alone or with a line feed, keeps the lines.
-/

namespace SentenceChart.Text

/-- The parts of a text before its line feeds.  What follows the last line feed
is left out. -/
def endedLines (text : List Char) : List (List Char) :=
  (text.splitOn '\n').dropLast

theorem endedLines_flatMap {lines : List (List Char)}
    (noEnd : ∀ line ∈ lines, '\n' ∉ line) :
    endedLines (lines.flatMap (· ++ ['\n'])) = lines := by
  have split : (lines.flatMap (· ++ ['\n'])).splitOn '\n' = lines ++ [[]] := by
    induction lines with
    | nil => rfl
    | cons line more ih =>
        obtain ⟨here, others⟩ := List.forall_mem_cons.mp noEnd
        rw [List.flatMap_cons, List.append_assoc, List.singleton_append,
          List.splitOn_append_cons_self_of_not_mem here, ih others]
        rfl
  rw [endedLines, split, List.dropLast_concat]

/-- A character that ends a line, or a carriage return and a line feed. -/
inductive IsLineEnd : List Char → Prop where
  | single {c : Char} : isLineEnd c = true → IsLineEnd [c]
  | return_feed : IsLineEnd ['\r', '\n']

/-- A text without the characters that end a line. -/
def IsLine (text : List Char) : Prop :=
  ∀ c ∈ text, isLineEnd c = false

theorem isLine_iff {text : List Char} :
    text.any isLineEnd = false ↔ IsLine text := by
  simp [IsLine]

instance (text : List Char) : Decidable (IsLine text) :=
  decidable_of_iff _ isLine_iff

/-- The text with a line feed for each carriage return, which takes the place of
a line feed after it, too. -/
def unifyLineEnds : List Char → List Char
  | [] => []
  | '\r' :: '\n' :: rest => '\n' :: unifyLineEnds rest
  | c :: rest => (if c = '\r' then '\n' else c) :: unifyLineEnds rest

theorem lines_cons_of_isLineEnd {c : Char} (ends : isLineEnd c = true)
    {rest : List Char} (alone : c = '\r' → ∀ more, rest ≠ '\n' :: more) :
    lines (c :: rest) = [] :: lines rest := by
  rw [lines, if_pos ends]
  intro more isReturn startsWithFeed
  exact alone isReturn more startsWithFeed

theorem lines_cons_of_not_isLineEnd {c : Char} (inside : isLineEnd c = false)
    (rest : List Char) :
    lines (c :: rest) =
      (c :: (lines rest).headD []) :: (lines rest).tail := by
  have notEnd : ¬isLineEnd c = true := by
    simp [inside]
  rw [lines, if_neg notEnd]
  · cases lines rest with
    | nil => rfl
    | cons line more => rfl
  · intro more isReturn
    rw [isReturn] at inside
    cases inside

theorem lines_append_of_lines_eq {line rest : List Char}
    {more : List (List Char)} (isLine : IsLine line)
    (endsHere : lines rest = [] :: more) :
    lines (line ++ rest) = line :: more := by
  induction line with
  | nil => exact endsHere
  | cons c line ih =>
      obtain ⟨inside, others⟩ := List.forall_mem_cons.mp isLine
      rw [List.cons_append, lines_cons_of_not_isLineEnd inside, ih others]
      rfl

theorem lines_of_isLine {line : List Char} (isLine : IsLine line)
    (nonempty : line ≠ []) : lines line = [line] := by
  induction line with
  | nil => exact absurd rfl nonempty
  | cons c line ih =>
      obtain ⟨inside, others⟩ := List.forall_mem_cons.mp isLine
      rw [lines_cons_of_not_isLineEnd inside]
      by_cases last : line = []
      · rw [last]
        rfl
      · rw [ih others last]
        rfl

/-- A line with its end is followed by the lines of the rest.  Only the line feed
at the front of the rest can belong to the end, too, and the rest has one empty
line less then. -/
theorem lines_append_lineEnd {line ending : List Char} (isLine : IsLine line)
    (ends : IsLineEnd ending) (rest : List Char) :
    lines (line ++ (ending ++ rest)) = line :: lines rest ∨
      ∃ more, lines rest = [] :: more ∧
        lines (line ++ (ending ++ rest)) = line :: more := by
  cases ends with
  | return_feed =>
      left
      apply lines_append_of_lines_eq isLine
      rw [List.cons_append, List.singleton_append, lines]
  | @single c ends =>
      rw [List.singleton_append]
      by_cases together : ∃ more, c = '\r' ∧ rest = '\n' :: more
      · right
        obtain ⟨more, rfl, rfl⟩ := together
        have feed : lines ('\n' :: more) = [] :: lines more :=
          lines_cons_of_isLineEnd (by decide) (by simp)
        refine ⟨lines more, feed, ?_⟩
        apply lines_append_of_lines_eq isLine
        rw [lines]
      · left
        apply lines_append_of_lines_eq isLine
        apply lines_cons_of_isLineEnd ends
        intro isReturn more startsWithFeed
        exact together ⟨more, isReturn, startsWithFeed⟩

theorem isLine_or_exists_lineEnd (text : List Char) :
    IsLine text ∨ ∃ line c rest, text = line ++ c :: rest ∧ IsLine line ∧
      isLineEnd c = true := by
  induction text with
  | nil => exact .inl (List.forall_mem_nil _)
  | cons c text ih =>
      cases ends : isLineEnd c with
      | true => exact .inr ⟨[], c, text, rfl, List.forall_mem_nil _, ends⟩
      | false =>
          rcases ih with isLine | ⟨line, d, rest, split, isLine, endsLater⟩
          · exact .inl (List.forall_mem_cons.mpr ⟨ends, isLine⟩)
          · exact .inr ⟨c :: line, d, rest, by rw [split, List.cons_append],
              List.forall_mem_cons.mpr ⟨ends, isLine⟩, endsLater⟩

/-- Reading every line end with a carriage return as a line feed keeps the
lines. -/
theorem lines_unifyLineEnds (text : List Char) :
    lines (unifyLineEnds text) = lines text := by
  have feed (rest : List Char) : lines ('\n' :: rest) = [] :: lines rest :=
    lines_cons_of_isLineEnd (by decide) (by simp)
  induction text using unifyLineEnds.induct with
  | case1 => rfl
  | case2 rest ih => rw [unifyLineEnds, feed, ih, lines]
  | case3 c rest alone ih =>
      rw [unifyLineEnds]
      · by_cases isReturn : c = '\r'
        · have ends : isLineEnd c = true := by
            rw [isReturn]
            decide
          have single : c = '\r' → ∀ more, rest ≠ '\n' :: more :=
            fun isReturn more startsWithFeed =>
              alone more isReturn startsWithFeed
          rw [if_pos isReturn, feed, ih, lines_cons_of_isLineEnd ends single]
        · rw [if_neg isReturn]
          cases inside : isLineEnd c with
          | true =>
              rw [lines_cons_of_isLineEnd inside (absurd · isReturn),
                lines_cons_of_isLineEnd inside (absurd · isReturn), ih]
          | false =>
              rw [lines_cons_of_not_isLineEnd inside,
                lines_cons_of_not_isLineEnd inside, ih]
      · exact alone

end SentenceChart.Text
