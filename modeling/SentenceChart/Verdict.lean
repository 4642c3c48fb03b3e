import SentenceChart.Diagnosis
import SentenceChart.Rejection
import SentenceChart.Tree.Written

/-!
# Verdicts

A sentence is valid and has a tree, or it is refused for a reason.  There is
no verdict if the text of the reason cannot be written.  A verdict is written as
a JSON record.
-/

namespace SentenceChart

/-- The kinds of refusal. -/
inductive RefusalKind where
  | emptyInput
  | unknownWord
  | structural
  | inputTooLong
deriving DecidableEq

/-- The name of the kind in records. -/
def RefusalKind.name : RefusalKind → String
  | .emptyInput => "empty_input"
  | .unknownWord => "unknown_word"
  | .structural => "structural"
  | .inputTooLong => "input_too_long"

/-- Why and where a sentence is refused. -/
structure Refusal where
  /-- The text for the user. -/
  message : String
  /-- The position of the word that the text is about. -/
  position : Int
  /-- The word itself, if the text names it. -/
  word : Option String
  /-- The kind of the refusal. -/
  kind : RefusalKind
deriving DecidableEq

/-- The kind of refusal that a rejection leads to. -/
def Rejection.kind : Rejection → RefusalKind
  | .empty _ => .emptyInput
  | .unknownWord _ _ => .unknownWord
  | .tooLong _ _ => .inputTooLong

/-- The refusal of a sentence without a chart, if its text can be written. -/
def Refusal.ofRejection? (rejection : Rejection) : Option Refusal :=
  rejection.message?.map fun message =>
    { message
      position := rejection.position
      word := rejection.word?
      kind := rejection.kind }

/-- The refusal of a sentence whose chart does not accept it. -/
def Refusal.ofChart (chart : Chart) : Refusal where
  message := chart.diagnosis.message
  position := chart.faultPosition
  word := none
  kind := .structural

/-- What is decided about a sentence. -/
inductive Verdict where
  | valid (tree : Tree)
  | invalid (refusal : Refusal)
  /-- Nothing: the text of a refusal cannot be written. -/
  | unwritable
deriving DecidableEq

/-- The members of the record of a refusal; the word comes last and only if
there is one. -/
def Refusal.members (refusal : Refusal) : List (String × Json) :=
  [("is_valid", .flag false), ("error", .text refusal.message),
      ("error_position", .number refusal.position),
      ("kind", .text refusal.kind.name)] ++
    (match refusal.word with
    | some word => [("error_word", .text word)]
    | none => [])

namespace Verdict

def isValid : Verdict → Bool
  | .valid _ => true
  | .invalid _ => false
  | .unwritable => false

/-- Whether something is decided. -/
def isWritable : Verdict → Bool
  | .valid _ => true
  | .invalid _ => true
  | .unwritable => false

/-- The verdict on a sentence without a chart. -/
def ofRejection (rejection : Rejection) : Verdict :=
  match Refusal.ofRejection? rejection with
  | some refusal => .invalid refusal
  | none => .unwritable

theorem ofRejection_tooLong_of_lt (length : Int) {limit : Int}
    (small : limit.natAbs < Text.numeralBound) :
    ofRejection (.tooLong length limit) =
      .invalid ⟨Rejection.tooLongText (Text.showInt length)
        (Text.showInt limit), limit, none, .inputTooLong⟩ := by
  rw [ofRejection, Refusal.ofRejection?, Rejection.message?,
    Text.numeral?_of_lt small]
  rfl

theorem ofRejection_tooLong_of_le (length : Int) {limit : Int}
    (large : Text.numeralBound ≤ limit.natAbs) :
    ofRejection (.tooLong length limit) = .unwritable := by
  rw [ofRejection, Refusal.ofRejection?, Rejection.message?,
    Text.numeral?_of_le large]
  rfl

theorem ofRejection_ne_valid (rejection : Rejection) (tree : Tree) :
    ofRejection rejection ≠ .valid tree := by
  rw [ofRejection]
  split <;> exact Verdict.noConfusion

def members : Verdict → List (String × Json)
  | .valid tree => [("is_valid", .flag true), ("parse_tree", tree.toJson)]
  | .invalid refusal => refusal.members
  | .unwritable => []

end Verdict

end SentenceChart
