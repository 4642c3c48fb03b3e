import SentenceChart.Grammar.Basic

/-!
# The grammar of short English sentences

A sentence is a noun phrase and a verb phrase; a noun phrase is a determiner
and a noun, and a verb phrase a verb that a noun phrase may follow.
-/

namespace SentenceChart.Grammar

/-- The rules that give each of the words one category. -/
def lexicon (category : Symbol) (words : List Symbol) : List Rule :=
  words.map fun word => ⟨category, [word]⟩

def determiners : List Symbol := ["the", "a"]

def nouns : List Symbol :=
  ["student", "teacher", "book", "apple", "chatbot", "dog", "cat"]

def verbs : List Symbol :=
  ["reads", "writes", "teaches", "eats", "talks", "chases", "likes"]

/-- The rules of the grammar of short English sentences. -/
def toyRules : List Rule :=
  [⟨"S", ["NP", "VP"]⟩, ⟨"NP", ["Det", "N"]⟩, ⟨"VP", ["V", "NP"]⟩,
      ⟨"VP", ["V"]⟩] ++
    lexicon "Det" determiners ++ lexicon "N" nouns ++ lexicon "V" verbs

/-- The grammar of short English sentences. -/
def toy : Grammar where
  start := "S"
  rules := toyRules
  grouped_rules := by decide
  start_mem := by decide
  isNearNormal_of_mem := by decide

end SentenceChart.Grammar
