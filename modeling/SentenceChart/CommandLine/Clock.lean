import SentenceChart.Text.Decimal

/-!
# Dates and times

The name of a log file and the lines in it carry the date and time.  The day
of the calendar is computed from the number of days since the first of March
of the year zero, so that the leap day is the last day of a year.
-/

namespace SentenceChart.CommandLine

/-- A day of the calendar. -/
structure Day where
  /-- The year. -/
  year : Nat
  /-- The month from 1 to 12. -/
  month : Nat
  /-- The day of the month. -/
  day : Nat
deriving DecidableEq

/-- The days of four hundred years. -/
def daysOfEra : Nat := 146097

/-- The days from the first of March of the year zero to the first of January
1970. -/
def daysBeforeEpoch : Nat := 719468

/-- The day with a number of days since the first of January 1970 before
it. -/
def Day.ofEpoch (days : Nat) : Day :=
  let shifted := days + daysBeforeEpoch
  let inEra := shifted % daysOfEra
  let yearOfEra :=
    (inEra - inEra / 1460 + inEra / 36524 - inEra / 146096) / 365
  let inYear := inEra - (365 * yearOfEra + yearOfEra / 4 - yearOfEra / 100)
  let fromMarch := (5 * inYear + 2) / 153
  let month := if fromMarch < 10 then fromMarch + 3 else fromMarch - 9
  { year := shifted / daysOfEra * 400 + yearOfEra + (if month ≤ 2 then 1 else 0)
    month
    day := inYear - (153 * fromMarch + 2) / 5 + 1 }

/-- The date and time in the two forms that a log uses. -/
structure Clock where
  /-- The part of the name of a log file. -/
  stamp : String
  /-- The time before a line. -/
  time : String

/-- A numeral with zeros before it up to a number of digits. -/
def padded (width number : Nat) : String :=
  let digits := Text.decimalDigits number
  String.ofList (List.replicate (width - digits.length) '0' ++ digits)

/-- The clock at a number of milliseconds since the first of January 1970. -/
def Clock.ofMilliseconds (milliseconds : Nat) : Clock :=
  let seconds := milliseconds / 1000
  let day := Day.ofEpoch (seconds / 86400)
  let hour := padded 2 (seconds / 3600 % 24)
  let minute := padded 2 (seconds / 60 % 60)
  let second := padded 2 (seconds % 60)
  let year := padded 4 day.year
  let month := padded 2 day.month
  let date := padded 2 day.day
  { stamp := year ++ month ++ date ++ "-" ++ hour ++ minute ++ second
    time := year ++ "-" ++ month ++ "-" ++ date ++ " " ++ hour ++ ":" ++
      minute ++ ":" ++ second ++ "," ++ padded 3 (milliseconds % 1000) }

/-- The name of the log file. -/
def Clock.logName (clock : Clock) : String :=
  "log_" ++ clock.stamp ++ ".log"

end SentenceChart.CommandLine
