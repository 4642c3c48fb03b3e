import SentenceChart.CommandLine.Option
import SentenceChart.Text.Numeral

/-!
# Kinds of arguments

Every argument is an option, a plain text, or the separator after which all
arguments are plain.  A long option may be shortened to any beginning that no
other option shares, and may have a value attached with an equals sign.  An
argument that looks like an option is still plain if it is a negative number
or holds a space.

What follows the letter for help differs between readings.  Here it is a value,
which the option does not take (`helpTail`), so that `-hx` is an error; in later
readings help is given before the rest is looked at.
-/

namespace SentenceChart.CommandLine

/-- An argument by its kind. -/
inductive Argument where
  /-- A sentence, or the value of the option before it. -/
  | plain (text : String)
  /-- The first `--`. -/
  | separator
  /-- An option, perhaps with a value attached to it. -/
  | option (choice : Choice) (attached : Option String)
  /-- An option that there is not. -/
  | unknown (text : String)
deriving DecidableEq

/-- The part before the first equals sign, and the part after it if there is
one. -/
def cutAtEquals (text : List Char) : List Char × Option String :=
  match text.dropWhile (· != '=') with
  | [] => (text, none)
  | _ :: value => (text.takeWhile (· != '='), some (String.ofList value))

/-- A decimal digit of any script. -/
def isDigit (c : Char) : Bool :=
  (Text.digitValue? c).isSome

/-- Digits with perhaps a point before the last of them. -/
def isUnsignedNumber (text : List Char) : Bool :=
  match text.dropWhile isDigit with
  | [] => !text.isEmpty
  | '.' :: places => !places.isEmpty && places.all isDigit
  | _ => false

/-- A minus sign and a number; a line feed may follow. -/
def isNegativeNumber : List Char → Bool
  | '-' :: rest =>
      isUnsignedNumber
        (if rest.getLast? = some '\n' then rest.dropLast else rest)
  | _ => false

/-- What follows a minus sign and the letter for help.  A value may be attached
with an equals sign.  The letter may be repeated, also in the value, and
whatever else follows is a value. -/
def helpTail (tail : List Char) : Argument :=
  match tail with
  | ['='] => .option (.switch .help) (some "")
  | _ =>
      let letters :=
        match tail with
        | '=' :: value => value
        | _ => tail
      match letters.dropWhile (· == 'h') with
      | [] => .option (.switch .help) none
      | rest => .option (.switch .help) (some (String.ofList rest))

/-- An argument that begins with a minus sign and names no option. -/
def noOption (text : List Char) : Argument :=
  if isNegativeNumber text || text.contains ' ' then
    .plain (String.ofList text)
  else
    .unknown (String.ofList text)

/-- The kind of an argument before the separator, or the options that it may
be the beginning of if there are several. -/
def classify (text : List Char) : Except (List Choice) Argument :=
  match text with
  | '-' :: '-' :: _ =>
      match Choice.named? text with
      | some choice => .ok (.option choice none)
      | none =>
          let (name, attached) := cutAtEquals text
          match Choice.named? name with
          | some choice => .ok (.option choice attached)
          | none =>
              match Choice.beginning name with
              | [] => .ok (noOption text)
              | [choice] => .ok (.option choice attached)
              | choices => .error choices
  | '-' :: 'h' :: tail => .ok (helpTail tail)
  | '-' :: _ :: _ => .ok (noOption text)
  | _ => .ok (.plain (String.ofList text))

/-- The kinds of all arguments, or the first one that may be the beginning of
several options together with these. -/
def classifyAll : List String → Except (String × List Choice) (List Argument)
  | [] => .ok []
  | text :: more =>
      if text = "--" then
        .ok (.separator :: more.map .plain)
      else
        match classify text.toList with
        | .error choices => .error (text, choices)
        | .ok argument => (classifyAll more).map (argument :: ·)

end SentenceChart.CommandLine
