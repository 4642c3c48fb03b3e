import SentenceChart.Rejection
import SentenceChart.Text.Blank
import SentenceChart.Text.Line
import SentenceChart.Text.Lowercase

/-!
# Sentences

The words of a sentence are the lower-case words of its text; a text without
any is rejected.  A file holds one sentence on each line that is not blank.
-/

namespace SentenceChart.Sentence

/-- The lower-case form of a word. -/
def lowercase (word : String) : String :=
  String.ofList (Text.lowercase word.toList)

/-- The words of a text that is not blank. -/
def words (raw : String) : List String :=
  (Text.words (Text.lowercase (Text.trim raw.toList))).map String.ofList

/-- The words of a text, if there is one and it is not blank. -/
def words? : Option String → Except Rejection (List String)
  | none => .error .blankSentence
  | some raw =>
      if Text.isBlankText raw.toList then
        .error .blankSentence
      else
        .ok (words raw)

/-- The sentences in the text of a file, blanks at their ends included. -/
def ofFile (text : String) : List String :=
  ((Text.lines text.toList).filter (!Text.isBlankText ·)).map String.ofList

end SentenceChart.Sentence
