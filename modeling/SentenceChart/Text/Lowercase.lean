import SentenceChart.Text.CaseRun
import SentenceChart.Text.Cased

/-!
# Lower case

Each character has a lower-case form of its own but for two.  The dotted
capital I becomes two characters, and the capital sigma takes its final form
at the end of a word: a letter stands before it and none after it, whatever
case-ignorable characters stand in between.
-/

namespace SentenceChart.Text

/-- The lower-case form of a character by itself. -/
def lowerChar (c : Char) : List Char :=
  if c = '\u0130' then ['i', '\u0307'] else [Char.ofNat (simpleLower c.toNat)]

/-- Whether a text begins with a cased character, once its case-ignorable
ones are passed over. -/
def beginsCased (text : List Char) : Bool :=
  match text.dropWhile isCaseIgnorable with
  | [] => false
  | c :: _ => isCased c

/-- The lower-case form of the capital sigma between the characters before
it, the nearest first, and the characters after it. -/
def lowerSigma (before after : List Char) : Char :=
  if beginsCased before && !beginsCased after then 'ς' else 'σ'

/-- The lower-case form of a text after the given characters, the nearest
first. -/
def lowercaseAfter (before : List Char) : List Char → List Char
  | [] => []
  | c :: rest =>
      (if c = 'Σ' then [lowerSigma before rest] else lowerChar c) ++
        lowercaseAfter (c :: before) rest

/-- The lower-case form of a text. -/
def lowercase (text : List Char) : List Char :=
  lowercaseAfter [] text

end SentenceChart.Text
