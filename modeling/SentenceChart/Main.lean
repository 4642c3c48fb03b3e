import SentenceChart.CommandLine.Run
import Std.Time.DateTime.Timestamp

/-!
# The program

Reads the arguments, prepares the files that a request names, and writes its
outcome.  A fault with a file, or a limit that cannot be used, ends the program
with the status 1.
-/

namespace SentenceChart.CommandLine

/-- The text of a fault with a file. -/
def faultText : FileFault → String
  | .notFound => "no such file or directory"
  | .isDirectory => "is a directory"
  | .notDirectory => "not a directory"
  | .taken => "file exists"
  | .undecodable => "not a text"
  | .tooLong => "file name too long"
  | .nullCharacter => "embedded null character"

/-- The fault that an error of the file system is, if it is one of these. -/
def faultOf? : IO.Error → Option FileFault
  | .noFileOrDirectory _ _ _ => some .notFound
  | .alreadyExists _ _ _ => some .taken
  | .invalidArgument _ code _ =>
      if code = 22 then some .nullCharacter else some .tooLong
  | .inappropriateType _ code _ =>
      if code = 21 then some .isDirectory else some .notDirectory
  | _ => none

/-- Runs an action on files and catches the faults that a run can end with. -/
def catchFault {α : Type} (action : IO α) : IO (Except FileFault α) := do
  try
    return .ok (← action)
  catch error =>
    match faultOf? error with
    | some fault => return .error fault
    | none => throw error

def currentClock : IO Clock := do
  let now ← Std.Time.Timestamp.now
  return .ofMilliseconds now.toMillisecondsSinceUnixEpoch.val.toNat

/-- Makes the log file in a directory and those above it, with its first
line. -/
def makeLog (directory : String) (clock : Clock) : IO String := do
  IO.FS.createDirAll directory
  let path := logPath (← IO.currentDir).toString directory clock
  (← IO.FS.Handle.mk path .append).putStr (openingLine path clock.time)
  return path

def readText (path : String) : IO (Except FileFault String) := do
  match ← catchFault (IO.FS.readBinFile path) with
  | .error fault => return .error fault
  | .ok bytes =>
      match String.fromUTF8? bytes with
      | some text => return .ok text
      | none => return .error .undecodable

/-- Writes the texts of an outcome, the log to the given path, where its first
line is already. -/
def Outcome.write (outcome : Outcome) (path time : String) : IO UInt32 := do
  (← IO.getStdout).putStr outcome.stdout
  (← IO.getStderr).putStr outcome.stderr
  match outcome.log with
  | some log =>
      let rest := (log.dropPrefix (openingLine path time)).toString
      (← IO.FS.Handle.mk path .append).putStr rest
  | none => pure ()
  match outcome.ending with
  | .exit status => return status.toUInt32
  | .fault fault =>
      (← IO.getStderr).putStrLn (faultText fault)
      return 1
  | .unusableLimit =>
      (← IO.getStderr).putStrLn "the limit cannot be used"
      return 1

/-- Carries a request out. -/
def Request.perform (request : Request) : IO UInt32 := do
  let clock ← currentClock
  let log ←
    match request.logDir with
    | none => pure (.ok "")
    | some directory => catchFault (makeLog directory clock)
  let text ←
    match log, request.dataFile with
    | .ok _, some path => readText path
    | _, _ => pure (.ok "")
  let path :=
    match log with
    | .ok path => path
    | .error _ => ""
  (request.outcome log text clock.time).write path clock.time

end SentenceChart.CommandLine

def main (arguments : List String) : IO UInt32 :=
  match SentenceChart.CommandLine.read arguments with
  | .request request => request.perform
  | .help => SentenceChart.CommandLine.Outcome.help.write "" ""
  | .wrong error => (SentenceChart.CommandLine.Outcome.wrong error).write "" ""
