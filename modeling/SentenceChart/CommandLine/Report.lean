import SentenceChart.Verdict

/-!
# Reports

Each sentence has a block of its own in the report: a JSON record on one line,
or the verdict for readers and a line of dashes.
-/

namespace SentenceChart.CommandLine

/-- The sentences of the examples. -/
def exampleSentences : List String :=
  ["the student reads a book", "a teacher writes", "the dog chases the cat",
    "a chatbot talks", "the student teaches the teacher"]

/-- The verdict on a sentence for readers: the outline of the tree, or the
text, the position and the word of the refusal.  Without a verdict there is
nothing to read. -/
def plainText (sentence : String) : Verdict → String
  | .valid tree => sentence ++ ": valid\n" ++ tree.outline Tree.reportIndent
  | .invalid refusal =>
      sentence ++ ": " ++ refusal.message ++ " (position " ++
        Text.showInt refusal.position ++ ")" ++
        (match refusal.word with
        | some word => " [word: " ++ word ++ "]"
        | none => "")
  | .unwritable => ""

/-- The record of a sentence and its verdict. -/
def record (sentence : String) (verdict : Verdict) : Json :=
  .record (("sentence", .text sentence) :: verdict.members)

/-- The block of a sentence. -/
def block (json : Bool) (sentence : String) (verdict : Verdict) : String :=
  if json then
    (record sentence verdict).toText ++ "\n"
  else
    plainText sentence verdict ++ "\n" ++ "---------------------\n"

end SentenceChart.CommandLine
