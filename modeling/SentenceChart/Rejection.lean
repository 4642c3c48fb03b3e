import SentenceChart.Text.Decimal

/-!
# Rejections

A sentence is rejected before its chart is filled if it has no words, too many
words, or a word that the grammar does not know.  The text about too many words
names the limit, so it cannot be written if the limit has no numeral.
-/

namespace SentenceChart

/-- Why a sentence has no chart. -/
inductive Rejection where
  /-- There are no words; the text says what was expected. -/
  | empty (message : String)
  /-- The grammar does not know the word at the position. -/
  | unknownWord (word : String) (position : Int)
  /-- There are more words than the limit. -/
  | tooLong (length limit : Int)

namespace Rejection

/-- The rejection of a text without words. -/
def blankSentence : Rejection :=
  .empty "Please enter a sentence to validate"

/-- The rejection of an empty list of words. -/
def noTokens : Rejection :=
  .empty "Empty sentence"

/-- The text about a word that the grammar does not know. -/
def unknownWordText (word : String) : String :=
  "Unknown word: \"" ++ word ++ "\""

/-- The text about more words than the limit. -/
def tooLongText (length limit : String) : String :=
  "Sentence too long: " ++ length ++ " words (maximum " ++ limit ++ ")"

/-- The text of the rejection, if the limit that it names can be written. -/
def message? : Rejection → Option String
  | .empty message => some message
  | .unknownWord word _ => some (unknownWordText word)
  | .tooLong length limit =>
      (Text.numeral? limit).map (tooLongText (Text.showInt length))

/-- The position that the rejection points at: the unknown word, or the first
word over the limit. -/
def position : Rejection → Int
  | .empty _ => 0
  | .unknownWord _ position => position
  | .tooLong _ limit => limit

/-- The word that the rejection names. -/
def word? : Rejection → Option String
  | .unknownWord word _ => some word
  | _ => none

end Rejection

end SentenceChart
