import SentenceChart.Datum
import SentenceChart.Verdict

/-!
# Rejections with any values

The message, the word, the positions and the limit of a rejection can be
values of any type, as far as what the message names can be shown.  A refusal
made from them has a record and a form that shows every field.
-/

namespace SentenceChart

/-- Why a sentence has no chart, told with any values. -/
inductive LooseRejection where
  /-- There are no words. -/
  | empty (message : Datum)
  /-- The grammar does not know the word at the position. -/
  | unknownWord (word position : Datum)
  /-- There are more words than the limit. -/
  | tooLong (length limit : Datum)

namespace LooseRejection

/-- A rejection with its own values. -/
def ofRejection : Rejection → LooseRejection
  | .empty message => .empty (.text message)
  | .unknownWord word position => .unknownWord (.text word) (.integer position)
  | .tooLong length limit => .tooLong (.integer length) (.integer limit)

def message? : LooseRejection → Except Datum.Fault Datum
  | .empty message => .ok message
  | .unknownWord word _ => do
      return .text (Rejection.unknownWordText (← word.shown?))
  | .tooLong length limit => do
      return .text (Rejection.tooLongText (← length.shown?) (← limit.shown?))

def position : LooseRejection → Datum
  | .empty _ => .integer 0
  | .unknownWord _ position => position
  | .tooLong _ limit => limit

/-- The word that the rejection names. -/
def word : LooseRejection → Datum
  | .unknownWord word _ => word
  | _ => .missing

def kind : LooseRejection → RefusalKind
  | .empty _ => .emptyInput
  | .unknownWord _ _ => .unknownWord
  | .tooLong _ _ => .inputTooLong

end LooseRejection

/-- The name of the kind where all fields are shown. -/
def RefusalKind.label : RefusalKind → String
  | .emptyInput => "EMPTY_INPUT"
  | .unknownWord => "UNKNOWN_WORD"
  | .structural => "STRUCTURAL"
  | .inputTooLong => "INPUT_TOO_LONG"

/-- Why and where a sentence is refused, told with any values. -/
structure LooseRefusal where
  /-- The message for the user. -/
  message : Datum
  /-- The position that the message is about. -/
  position : Datum
  /-- The word, if the message names it. -/
  word : Datum
  /-- The kind of the refusal. -/
  kind : RefusalKind

namespace LooseRefusal

/-- A refusal with its own values. -/
def ofRefusal (refusal : Refusal) : LooseRefusal where
  message := .text refusal.message
  position := .integer refusal.position
  word :=
    match refusal.word with
    | some word => .text word
    | none => .missing
  kind := refusal.kind

def ofRejection? (rejection : LooseRejection) :
    Except Datum.Fault LooseRefusal :=
  rejection.message?.map fun message =>
    { message
      position := rejection.position
      word := rejection.word
      kind := rejection.kind }

/-- The record of a refusal; the word comes last and only if there is one. -/
def toDatum (refusal : LooseRefusal) : Datum :=
  .record <|
    [("is_valid", .flag false), ("error", refusal.message),
      ("error_position", refusal.position),
      ("kind", .text refusal.kind.name)] ++
    (match refusal.word with
    | .missing => []
    | word => [("error_word", word)])

/-- The form of a refusal that shows every field. -/
def summary (refusal : LooseRefusal) : String :=
  "Invalid(message=" ++ String.ofList refusal.message.quoted ++
    ", error_position=" ++ String.ofList refusal.position.quoted ++
    ", error_word=" ++ String.ofList refusal.word.quoted ++
    ", kind=<ErrorKind." ++ refusal.kind.label ++ ": " ++
    Text.quote refusal.kind.name ++ ">)"

end LooseRefusal

end SentenceChart
