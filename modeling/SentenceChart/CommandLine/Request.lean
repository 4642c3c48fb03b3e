import SentenceChart.Checker
import SentenceChart.CommandLine.Argument

/-!
# Requests

The arguments are read from left to right.  Options may stand anywhere, the
later of two values counts, and the first unbroken run of plain arguments
holds the sentences.  Help is given as soon as it is asked for, a wrong value is
reported as soon as it is found, and arguments that nothing takes are reported
together at the end.

Readings of `--` differ.  Here it is always the separator: attached to an option
it leaves the option without a value, so that `--data_file=--` names no file and
`--max_tokens=--` sets a limit that cannot be used (`Request.attach`).  In later
readings an attached `--` is the value itself.
-/

namespace SentenceChart.CommandLine

/-- What is given as the most words of a sentence. -/
inductive WordLimit where
  /-- A number of words. -/
  | most (limit : Int)
  /-- No value at all, with which no number of words can be compared. -/
  | unusable
deriving DecidableEq

/-- The number of words, if there is one. -/
def WordLimit.value? : WordLimit → Option Int
  | .most limit => some limit
  | .unusable => none

/-- What the arguments ask for. -/
structure Request where
  /-- The sentences among the arguments. -/
  sentences : List String
  /-- The file with more sentences. -/
  dataFile : Option String
  /-- Whether the example sentences are checked as well. -/
  examples : Bool
  /-- Whether the grammar is shown. -/
  showGrammar : Bool
  /-- Whether verdicts are written as JSON records. -/
  json : Bool
  /-- The most words of a sentence. -/
  limit : WordLimit
  /-- The directory of the log file. -/
  logDir : Option String
  /-- Whether all log records are shown. -/
  verbose : Bool
deriving DecidableEq

/-- What is wrong with the arguments. -/
inductive UsageError where
  /-- An argument may be the beginning of several options. -/
  | ambiguous (text : String) (choices : List Choice)
  /-- An option has no value. -/
  | valueExpected (choice : Choice)
  /-- A value is no integer. -/
  | badInteger (choice : Choice) (value : String)
  /-- An option that takes no value has one attached. -/
  | valueIgnored (choice : Choice) (value : String)
  /-- Nothing takes these arguments. -/
  | unrecognized (texts : List String)

def UsageError.message : UsageError → String
  | .ambiguous text choices =>
      "ambiguous option: " ++ text ++ " could match " ++
        ", ".intercalate (choices.map Choice.longName)
  | .valueExpected choice =>
      "argument " ++ choice.name ++ ": expected one argument"
  | .badInteger choice value =>
      "argument " ++ choice.name ++ ": invalid int value: " ++
        Text.quote value
  | .valueIgnored choice value =>
      "argument " ++ choice.name ++ ": ignored explicit argument " ++
        Text.quote value
  | .unrecognized texts =>
      "unrecognized arguments: " ++ " ".intercalate texts

/-- What the arguments amount to. -/
inductive Reading where
  /-- A request to carry out. -/
  | request (request : Request)
  /-- A request for help. -/
  | help
  /-- Wrong arguments. -/
  | wrong (error : UsageError)

/-- Where the reading stands: before the sentences, among them, or after
them. -/
inductive Phase where
  | before
  | among
  | after
deriving DecidableEq

/-- An option ends the run of sentences. -/
def Phase.atOption : Phase → Phase
  | .before => .before
  | .among => .after
  | .after => .after

/-- The request of no arguments. -/
def Request.initial : Request where
  sentences := []
  dataFile := none
  examples := false
  showGrammar := false
  json := false
  limit := .most defaultLimit
  logDir := none
  verbose := false

/-- The request with one more sentence. -/
def Request.addSentence (request : Request) (sentence : String) : Request :=
  { request with sentences := request.sentences ++ [sentence] }

/-- The request with a switch turned on. -/
def Request.turnOn (request : Request) : Switch → Request
  | .help => request
  | .examples => { request with examples := true }
  | .showGrammar => { request with showGrammar := true }
  | .json => { request with json := true }
  | .verbose => { request with verbose := true }

/-- A path, unless it is empty. -/
def path? (text : String) : Option String :=
  if text.isEmpty then none else some text

/-- The request with a value for a setting. -/
def Request.assign (request : Request) (setting : Setting) (value : String) :
    Except UsageError Request :=
  match setting with
  | .dataFile => .ok { request with dataFile := path? value }
  | .logDir => .ok { request with logDir := path? value }
  | .maxTokens =>
      match Text.integer? value.toList with
      | some limit => .ok { request with limit := .most limit }
      | none => .error (.badInteger (.setting setting) value)

/-- The request without a value for a setting. -/
def Request.clear (request : Request) : Setting → Request
  | .dataFile => { request with dataFile := none }
  | .logDir => { request with logDir := none }
  | .maxTokens => { request with limit := .unusable }

/-- The request with a value attached to a setting. -/
def Request.attach (request : Request) (setting : Setting) (value : String) :
    Except UsageError Request :=
  if value = "--" then .ok (request.clear setting)
  else request.assign setting value

/-- Reads the arguments after those that made the request so far; `unused`
holds the arguments that nothing took. -/
def readAfter (request : Request) (phase : Phase) (unused : List String) :
    List Argument → Reading
  | [] =>
      if unused.isEmpty then
        .request request
      else
        .wrong (.unrecognized unused)
  | .plain text :: more =>
      if phase = .after then
        readAfter request phase (unused ++ [text]) more
      else
        readAfter (request.addSentence text) .among unused more
  | .separator :: more =>
      if phase = .after then
        readAfter request phase (unused ++ ["--"]) more
      else
        readAfter request .among unused more
  | .unknown text :: more =>
      readAfter request phase.atOption (unused ++ [text]) more
  | .option (.switch switch) (some value) :: _ =>
      .wrong (.valueIgnored (.switch switch) value)
  | .option (.switch switch) none :: more =>
      if switch = .help then
        .help
      else
        readAfter (request.turnOn switch) phase.atOption unused more
  | .option (.setting setting) (some value) :: more =>
      match request.attach setting value with
      | .error error => .wrong error
      | .ok request => readAfter request phase.atOption unused more
  | .option (.setting setting) none :: .plain value :: more =>
      match request.assign setting value with
      | .error error => .wrong error
      | .ok request => readAfter request phase.atOption unused more
  | .option (.setting setting) none :: _ =>
      .wrong (.valueExpected (.setting setting))

/-- What a list of arguments amounts to. -/
def read (arguments : List String) : Reading :=
  match classifyAll arguments with
  | .error (text, choices) => .wrong (.ambiguous text choices)
  | .ok kinds => readAfter Request.initial .before [] kinds

end SentenceChart.CommandLine
