/-!
# Log records

A record has a level, the part of the program that reports, and a message.
-/

namespace SentenceChart.Log

/-- The importance of a record. -/
inductive Level where
  | debug
  | info
deriving DecidableEq

/-- The name of a level in a line. -/
def Level.name : Level → String
  | .debug => "DEBUG"
  | .info => "INFO"

/-- Whether records of a level are shown where `least` is asked for. -/
def Level.reaches (level least : Level) : Bool :=
  level == .info || least == .debug

/-- The parts of the program that report. -/
inductive Reporter where
  /-- The filling of charts. -/
  | chart
  /-- The judging of sentences. -/
  | verdict
  /-- The run of the command line. -/
  | run
  /-- The opening of the log. -/
  | opening
deriving DecidableEq

/-- The name of a part in a line. -/
def Reporter.name : Reporter → String
  | .chart => "cky"
  | .verdict => "validator"
  | .run => "main"
  | .opening => "log_utils"

/-- One report. -/
structure Record where
  /-- How important the report is. -/
  level : Level
  /-- Who reports. -/
  reporter : Reporter
  /-- What is reported. -/
  message : String
deriving DecidableEq

/-- The line of a record without its end. -/
def Record.line (record : Record) : String :=
  record.level.name ++ " - " ++ record.reporter.name ++ " - " ++ record.message

/-- The lines of the records that reach a level, each with its end and with
the same words before it. -/
def linesFrom (least : Level) (before : String) (records : List Record) :
    String :=
  String.join <| (records.filter (·.level.reaches least)).map fun record =>
    before ++ record.line ++ "\n"

end SentenceChart.Log
