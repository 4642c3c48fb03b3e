import SentenceChart.CommandLine.Clock
import SentenceChart.CommandLine.FileTree
import SentenceChart.CommandLine.Report
import SentenceChart.CommandLine.Usage
import SentenceChart.Grammar.Written

/-!
# Runs of the command line

A run opens the log if a directory is given for it, shows the grammar if asked
to, reads the file with more sentences, and writes the block of each sentence.
A fault with a file ends the run where it happens, and a limit that cannot be
used ends it at the first sentence with words.  A limit that has no numeral
would end it at the first sentence over the limit, but no arguments give one
(`limit_lt_of_read`).  The exit status says whether all sentences are valid.  The
report depends on the sentences and the way they are shown only; the log records
go elsewhere.
-/

namespace SentenceChart.CommandLine

/-- How a run ends. -/
inductive Ending where
  /-- With an exit status. -/
  | exit (status : Nat)
  /-- With a file that cannot be used. -/
  | fault (fault : FileFault)
  /-- With a limit that cannot be used. -/
  | unusableLimit
deriving DecidableEq

/-- The texts that a run leaves behind, and its end. -/
structure Outcome where
  /-- The report. -/
  stdout : String
  /-- Messages, and the log records that are shown. -/
  stderr : String
  /-- The text of the log file, if there is one. -/
  log : Option String
  /-- The end of the run. -/
  ending : Ending

/-- A report with log records and an end. -/
structure Course where
  /-- The report. -/
  stdout : String
  /-- All log records in order. -/
  records : List Log.Record
  /-- The end of the run. -/
  ending : Ending

/-- The checker of a request. -/
def Request.checker (request : Request) : Checker where
  grammar := Grammar.toy
  limit := request.limit.value?

/-- The grammar at the head of the report. -/
def Request.preamble (request : Request) : String :=
  if request.showGrammar then request.checker.grammar.toText else ""

/-- The sentences of a request: those among the arguments, those of the file,
and the examples. -/
def Request.allSentences (request : Request) (fromFile : List String) :
    List String :=
  request.sentences ++ fromFile ++
    (if request.examples then exampleSentences else [])

/-- A sentence with its verdict and the log records about it. -/
structure Checked where
  /-- The sentence. -/
  sentence : String
  /-- The verdict on it. -/
  verdict : Verdict
  /-- What was reported while it was examined. -/
  records : List Log.Record

/-- Checks one sentence. -/
def Request.check (request : Request) (sentence : String) : Checked :=
  let examination := request.checker.examine (some sentence)
  { sentence
    verdict := request.checker.judge examination
    records := request.checker.records examination }

/-- Whether a sentence can be checked.  Without a limit that can be used, only
a sentence without words can. -/
def Request.canCheck (request : Request) (sentence : String) : Bool :=
  match request.limit with
  | .most limit =>
      (Text.numeral? limit).isSome ||
        (request.check sentence).verdict.isWritable
  | .unusable => Text.isBlankText sentence.toList

/-- The block of a checked sentence. -/
def Request.blockOf (request : Request) (checked : Checked) : String :=
  block request.json checked.sentence checked.verdict

/-- The record at the end of a run. -/
def closingRecord (sentences : List String) : Log.Record :=
  ⟨.info, .run,
    "validated " ++ Text.showInt sentences.length ++ " sentences"⟩

/-- The sentences in the file that the request names; `text` is what reading
it gives. -/
def Request.fileSentences (request : Request)
    (text : Except FileFault String) : Except FileFault (List String) :=
  match request.dataFile with
  | none => .ok []
  | some _ => text.map Sentence.ofFile

/-- The run after the log was opened. -/
def Request.course (request : Request) (text : Except FileFault String) :
    Course :=
  match request.fileSentences text with
  | .error fault => ⟨request.preamble, [], .fault fault⟩
  | .ok fromFile =>
      let sentences := request.allSentences fromFile
      let checked :=
        (sentences.takeWhile request.canCheck).map request.check
      let stdout :=
        request.preamble ++ String.join (checked.map request.blockOf)
      let records := checked.flatMap Checked.records
      if sentences.all request.canCheck then
        ⟨stdout, records ++ [closingRecord sentences],
          .exit (if checked.all (·.verdict.isValid) then 0 else 1)⟩
      else
        ⟨stdout, records, .unusableLimit⟩

/-- The least level of the log records that are shown, if any are. -/
def Request.shownLevel (request : Request) : Option Log.Level :=
  if request.verbose then some .debug
  else if request.logDir.isSome then some .info
  else none

/-- The record about a log file that was opened. -/
def openingRecord (path : String) : Log.Record :=
  ⟨.info, .opening, "Logging to " ++ path⟩

/-- The line of the log file about its opening. -/
def openingLine (path time : String) : String :=
  Log.linesFrom .debug (time ++ " - ") [openingRecord path]

/-- The outcome of a request.  `log` is the path of the log file or the fault
in making it, `text` the content of the file with more sentences or the fault
in reading it, and `time` stands before each line of the log file. -/
def Request.outcome (request : Request) (log : Except FileFault String)
    (text : Except FileFault String) (time : String) : Outcome :=
  let course := request.course text
  let shown (records : List Log.Record) : String :=
    match request.shownLevel with
    | some least => Log.linesFrom least "" records
    | none => ""
  match request.logDir, log with
  | none, _ =>
      ⟨course.stdout, shown course.records, none, course.ending⟩
  | some _, .error fault => ⟨"", "", none, .fault fault⟩
  | some _, .ok path =>
      let records := openingRecord path :: course.records
      ⟨course.stdout, shown records,
        some (Log.linesFrom .debug (time ++ " - ") records), course.ending⟩

/-- The outcome of a request for help. -/
def Outcome.help : Outcome :=
  ⟨helpText, "", none, .exit 0⟩

/-- The outcome of wrong arguments. -/
def Outcome.wrong (error : UsageError) : Outcome :=
  ⟨"", error.report, none, .exit 2⟩

/-- The path of the log file in a directory, whose own path may begin at the
directory of the run. -/
def logPath (here directory : String) (clock : Clock) : String :=
  Path.normal (Path.join here (Path.join directory clock.logName))

/-- The tree of files with the log that a request asks for, and the path of the
log file.  The directory is made first, then the log file is opened at its
shortest path, and the record about that is its first line. -/
def Request.openLog (request : Request) (files : FileTree) (clock : Clock) :
    Except FileFault (FileTree × String) :=
  match request.logDir with
  | none => .ok (files, "")
  | some directory =>
      match files.makeDirectories directory.toList with
      | (_, some fault) => .error fault
      | (made, none) =>
          let path := logPath (Path.ofLocation files.here) directory clock
          match made.writable path with
          | .error fault => .error fault
          | .ok location =>
              let line := openingLine path clock.time
              .ok (made.append location line.toUTF8, path)

/-- The outcome of a request on a tree of files, and the path of its log
file. -/
def Request.outcomeOn (request : Request) (files : FileTree) (clock : Clock) :
    Outcome × String :=
  match request.openLog files clock with
  | .error fault =>
      (request.outcome (.error fault) (.error fault) clock.time, "")
  | .ok (made, path) =>
      (request.outcome (.ok path) (made.text (request.dataFile.getD ""))
        clock.time, path)

/-- The outcome of arguments on a tree of files, and the path of the log
file. -/
def outcomeOn (arguments : List String) (files : FileTree) (clock : Clock) :
    Outcome × String :=
  match read arguments with
  | .request request => request.outcomeOn files clock
  | .help => (.help, "")
  | .wrong error => (.wrong error, "")

end SentenceChart.CommandLine
