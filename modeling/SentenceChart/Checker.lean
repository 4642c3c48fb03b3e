import SentenceChart.Grammar.Toy
import SentenceChart.Log
import SentenceChart.Tree.Rebuild
import SentenceChart.Verdict

/-!
# Checking sentences

A checker has a grammar and a limit on the number of words.  An examination
ends with blank input, a rejection, or a filled chart; the verdict and the log
records are two views of it.
-/

namespace SentenceChart

/-- The most words of a sentence unless another limit is set. -/
def defaultLimit : Int := 64

/-- What sentences are checked against. -/
structure Checker where
  /-- The grammar of the language. -/
  grammar : Grammar
  /-- The most words that a sentence may have, if there is a limit. -/
  limit : Option Int

/-- How far a sentence gets. -/
inductive Examination where
  /-- The text has no words. -/
  | blank (rejection : Rejection)
  /-- The words have no chart. -/
  | rejected (rejection : Rejection)
  /-- The words have a chart. -/
  | charted (chart : Chart)

/-- The examination that ends with a chart or the rejection of its words. -/
def Examination.ofChart? : Except Rejection Chart → Examination
  | .error rejection => .rejected rejection
  | .ok chart => .charted chart

/-- The records about the filling of a chart. -/
def Log.ofChart : Except Rejection Chart → List Log.Record
  | .error (.unknownWord word position) =>
      [⟨.debug, .chart, "unknown word " ++
        Text.quote word ++ " at position " ++
        Text.showInt position⟩]
  | .error _ => []
  | .ok chart =>
      [⟨.debug, .chart, "chart filled for " ++ Text.showInt chart.length ++
        " tokens, accepted=" ++ (Datum.flag chart.accepted).shown⟩]

namespace Checker

/-- The filled chart of a list of words. -/
def chart? (checker : Checker) (tokens : List String) :
    Except Rejection Chart :=
  checker.grammar.chart? checker.limit tokens

/-- The examination of a list of words. -/
def examineTokens (checker : Checker) (tokens : List String) : Examination :=
  .ofChart? (checker.chart? tokens)

/-- The examination of a text, which may be missing. -/
def examine (checker : Checker) (raw : Option String) : Examination :=
  match Sentence.words? raw with
  | .error rejection => .blank rejection
  | .ok tokens => checker.examineTokens tokens

/-- The verdict of an examination: a chart that accepts its sentence gives the
tree of the start symbol. -/
def judge (checker : Checker) : Examination → Verdict
  | .blank rejection => .ofRejection rejection
  | .rejected rejection => .ofRejection rejection
  | .charted chart =>
      if chart.accepted then
        .valid (chart.startTree checker.grammar)
      else
        .invalid (.ofChart chart)

/-- The verdict on a text, which may be missing. -/
def check (checker : Checker) (raw : Option String) : Verdict :=
  checker.judge (checker.examine raw)

/-- The verdict on a list of words. -/
def checkTokens (checker : Checker) (tokens : List String) : Verdict :=
  checker.judge (checker.examineTokens tokens)

/-- The record about a rejection with a message. -/
def rejectionRecord (message : String) : Log.Record :=
  ⟨.debug, .verdict, "rejected before chart fill: " ++ message⟩

/-- The records about a verdict on a chart. -/
def verdictRecords (verdict : Verdict) : List Log.Record :=
  match verdict with
  | .valid tree => [⟨.debug, .verdict, "valid: " ++ tree.toText⟩]
  | .invalid refusal =>
      [⟨.debug, .verdict, "invalid: " ++ refusal.message ++ " (position " ++
        Text.showInt refusal.position ++ ")"⟩]
  | .unwritable => []

/-- The records about an examination.  There is none about a rejection whose
text cannot be written. -/
def records (checker : Checker) (examination : Examination) :
    List Log.Record :=
  match examination with
  | .blank _ => [⟨.debug, .verdict, "empty input"⟩]
  | .rejected rejection =>
      Log.ofChart (.error rejection) ++
        rejection.message?.toList.map rejectionRecord
  | .charted chart =>
      Log.ofChart (.ok chart) ++
        verdictRecords (checker.judge (.charted chart))

end Checker

/-- The checker of short English sentences with the default limit. -/
def Checker.standard : Checker where
  grammar := Grammar.toy
  limit := some defaultLimit

end SentenceChart
