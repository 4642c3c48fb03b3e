import SentenceChart.Checker
import SentenceChart.Loose.Grammar
import SentenceChart.Loose.Order
import SentenceChart.Loose.Rejection

/-!
# Checking any values

A sentence, a list of words and the limit on their number can be given as
values of any type.  What is rejected with them is told with these values; a
chart and the verdict on it are those of the grammar of texts.
-/

namespace SentenceChart

/-- A value as a sentence, which may be missing. -/
def Datum.sentence? : Datum → Except Datum.Fault (Option String)
  | .missing => .ok none
  | .text value => .ok (some value)
  | _ => .error .notText

/-- What is decided about a sentence, told with any values. -/
inductive LooseVerdict where
  | valid (tree : Tree)
  | invalid (refusal : LooseRefusal)

namespace LooseVerdict

/-- A verdict with its own values. -/
def ofVerdict? : Verdict → Except Datum.Fault LooseVerdict
  | .valid tree => .ok (.valid tree)
  | .invalid refusal => .ok (.invalid (.ofRefusal refusal))
  | .unwritable => .error .tooManyDigits

def isValid : LooseVerdict → Bool
  | .valid _ => true
  | .invalid _ => false

/-- The form of a verdict that shows every field. -/
def summary : LooseVerdict → String
  | .valid tree => "Valid(parse_tree=" ++ tree.summary ++ ")"
  | .invalid refusal => refusal.summary

/-- Whether two verdicts are equal.  Refusals are if all their fields are. -/
def same : LooseVerdict → LooseVerdict → Bool
  | .valid left, .valid right => decide (left = right)
  | .invalid left, .invalid right =>
      left.message.key == right.message.key &&
        left.position.key == right.position.key &&
        left.word.key == right.word.key && decide (left.kind = right.kind)
  | _, _ => false

end LooseVerdict

/-- The records about the filling of a chart.  Only a word that is a text is
looked up in a grammar. -/
def Log.ofLooseChart : Except LooseRejection Chart → List Log.Record
  | .ok chart => Log.ofChart (.ok chart)
  | .error (.unknownWord (.text word) (.integer position)) =>
      Log.ofChart (.error (.unknownWord word position))
  | .error _ => []

/-- What any values are checked against. -/
structure LooseChecker where
  /-- The grammar of the language. -/
  grammar : LooseGrammar
  /-- The most words that a sentence may have; a missing one is no limit. -/
  limit : Datum

namespace LooseChecker

/-- The checker of texts without a limit. -/
def typed (checker : LooseChecker) : Checker where
  grammar := checker.grammar.grammar
  limit := none

/-- Whether there are more words than the limit allows. -/
def isExceeded? (checker : LooseChecker) (length : Nat) :
    Except Datum.Fault Bool :=
  match checker.limit with
  | .missing => .ok false
  | limit => limit.isBelow? (.integer length)

/-- The filled chart of a value as a list of words.  The number of words is
tested before the words are read. -/
def chart? (checker : LooseChecker) (tokens : Datum) :
    Except Datum.Fault (Except LooseRejection Chart) :=
  if tokens.isEmpty then
    .ok (.error (.ofRejection .noTokens))
  else
    match tokens.items? with
    | none => .error .notSequence
    | some items =>
        match checker.isExceeded? items.length with
        | .error fault => .error fault
        | .ok true =>
            .ok (.error (.tooLong (.integer items.length) checker.limit))
        | .ok false =>
            tokens.texts?.map fun words =>
              (checker.typed.chart? words).mapError .ofRejection

/-- The verdict of an examination of texts, and the records about it. -/
def judged (checker : LooseChecker) (examination : Examination) :
    Except Datum.Fault (LooseVerdict × List Log.Record) :=
  (LooseVerdict.ofVerdict? (checker.typed.judge examination)).map
    fun verdict => (verdict, checker.typed.records examination)

/-- The verdict on words without a chart, and the records about it. -/
def rejected (rejection : LooseRejection) :
    Except Datum.Fault (LooseVerdict × List Log.Record) := do
  let refusal ← LooseRefusal.ofRejection? rejection
  return (.invalid refusal,
    Log.ofLooseChart (.error rejection) ++
      [Checker.rejectionRecord refusal.message.shown])

/-- The verdict on a value as a list of words, and the records about it. -/
def checkTokens (checker : LooseChecker) (tokens : Datum) :
    Except Datum.Fault (LooseVerdict × List Log.Record) := do
  match ← checker.chart? tokens with
  | .ok chart => checker.judged (.charted chart)
  | .error rejection => rejected rejection

/-- The verdict on a value as a sentence, and the records about it. -/
def check (checker : LooseChecker) (sentence : Datum) :
    Except Datum.Fault (LooseVerdict × List Log.Record) :=
  match sentence.sentence? with
  | .error fault => .error fault
  | .ok raw =>
      match Sentence.words? raw with
      | .error rejection => checker.judged (.blank rejection)
      | .ok words => checker.checkTokens (.list (words.map .text))

end LooseChecker

end SentenceChart
