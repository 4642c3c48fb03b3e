import SentenceChart.Chart.Basic

/-!
# Diagnoses

A diagnosis says why a filled chart does not accept its sentence.  It looks
for the categories of a short English sentence, first among the single words
and then for a noun phrase of two words or more.
-/

namespace SentenceChart

/-- Why a sentence is not accepted, in the order in which the reasons are
looked for. -/
inductive Diagnosis where
  | singleWord
  | noDeterminer
  | noNoun
  | noVerb
  | noNounPhrase
  | wrongStructure
deriving DecidableEq

def Diagnosis.message : Diagnosis → String
  | .singleWord =>
      "Single word cannot form a complete sentence. " ++
        "Expected: Determiner + Noun + Verb (+ optional Noun Phrase)"
  | .noDeterminer => "Missing determiner ('the' or 'a')"
  | .noNoun => "Missing noun"
  | .noVerb => "Missing verb"
  | .noNounPhrase =>
      "Cannot form noun phrase. Expected: Determiner + Noun"
  | .wrongStructure =>
      "Invalid sentence structure. Expected: Noun Phrase + Verb Phrase"

namespace Category

def determiner : Symbol := "Det"

def noun : Symbol := "N"

def verb : Symbol := "V"

def nounPhrase : Symbol := "NP"

end Category

namespace Chart

/-- Whether the category is in the cell of a single word. -/
def hasWord (chart : Chart) (category : Symbol) : Bool :=
  (List.range chart.length).any fun position =>
    (chart.cell position position).contains category

/-- Whether the category is in the cell of two words or more. -/
def hasPhrase (chart : Chart) (category : Symbol) : Bool :=
  (Span.all chart.length).any fun (first, last) =>
    decide (first < last) && (chart.cell first last).contains category

/-- The first reason that fits. -/
def diagnosis (chart : Chart) : Diagnosis :=
  if chart.length = 1 then .singleWord
  else if !chart.hasWord Category.determiner then .noDeterminer
  else if !chart.hasWord Category.noun then .noNoun
  else if !chart.hasWord Category.verb then .noVerb
  else if !chart.hasPhrase Category.nounPhrase then .noNounPhrase
  else .wrongStructure

/-- The first word whose cell is empty, or the first word of all. -/
def faultPosition (chart : Chart) : Nat :=
  ((List.range chart.length).find? fun position =>
    (chart.cell position position).isEmpty).getD 0

end Chart

end SentenceChart
