import SentenceChart.Proofs.Tokens

/-!
# Words and the gaps between them

The words of a sentence are tokens: they are not empty, have no blanks and are
lower case.  Tokens that are written one after another, with gaps between them
and perhaps blanks around them, are the words of the text, and a gap between two
texts separates their words.  So a sentence is its tokens up to the choice of the
gaps and of upper and lower case.
-/

namespace SentenceChart

namespace Sentence

/-- A text of blanks only; the empty text is one. -/
def IsBlank (text : String) : Prop :=
  ∀ c ∈ text.toList, Text.isBlank c = true

/-- A text of blanks that has at least one of them. -/
structure IsGap (text : String) : Prop where
  ne_empty : text ≠ ""
  isBlank : IsBlank text

/-- A word as it stands in the list of the words of a sentence. -/
structure IsToken (word : String) : Prop where
  ne_empty : word ≠ ""
  not_isBlank : ∀ c ∈ word.toList, Text.isBlank c = false
  lowercase_eq : lowercase word = word

/-- Words with a gap before each of them. -/
def spaced : List (String × String) → String
  | [] => ""
  | (gap, word) :: more => gap ++ word ++ spaced more

theorem isBlankText_iff {text : String} :
    Text.isBlankText text.toList = true ↔ IsBlank text := by
  rw [Text.isBlankText, List.all_eq_true, IsBlank]

theorem isGap_iff {text : String} :
    text ≠ "" ∧ IsBlank text ↔ IsGap text :=
  ⟨fun ⟨ne_empty, isBlank⟩ => ⟨ne_empty, isBlank⟩,
    fun gap => ⟨gap.ne_empty, gap.isBlank⟩⟩

theorem isToken_iff {word : String} :
    word ≠ "" ∧ word.toList.any Text.isBlank = false ∧
        lowercase word = word ↔
      IsToken word := by
  rw [List.any_eq_false]
  constructor
  · rintro ⟨ne_empty, noBlank, lowercase_eq⟩
    exact ⟨ne_empty, fun c member => by simpa using noBlank c member,
      lowercase_eq⟩
  · intro token
    exact ⟨token.ne_empty, fun c member => by
      simpa using token.not_isBlank c member, token.lowercase_eq⟩

instance (text : String) : Decidable (IsBlank text) :=
  decidable_of_iff _ isBlankText_iff

instance (text : String) : Decidable (IsGap text) :=
  decidable_of_iff _ isGap_iff

instance (word : String) : Decidable (IsToken word) :=
  decidable_of_iff _ isToken_iff

theorem words?_of_not_isBlank {raw : String} (notBlank : ¬IsBlank raw) :
    words? (some raw) = .ok (words raw) := by
  rw [words?, if_neg (mt isBlankText_iff.mp notBlank)]

theorem IsToken.not_isBlank_append {word : String} (token : IsToken word)
    (before after : String) : ¬IsBlank (before ++ word ++ after) := by
  intro blank
  obtain ⟨c, member⟩ := List.exists_mem_of_ne_nil word.toList
    (by simpa using token.ne_empty)
  have inText : c ∈ (before ++ word ++ after).toList := by
    simp [member]
  have notBlank := token.not_isBlank c member
  rw [blank c inText] at notBlank
  cases notBlank

theorem isToken_of_mem_words {raw word : String}
    (member : word ∈ words raw) : IsToken word := by
  have lower : lowercase word = word := by
    rw [← map_lowercase_rawWords] at member
    obtain ⟨rawWord, _, rfl⟩ := List.mem_map.mp member
    rw [lowercase, lowercase, String.toList_ofList, Text.lowercase_lowercase]
  obtain ⟨chars, charsMember, rfl⟩ := List.mem_map.mp member
  refine ⟨?_, ?_, lower⟩
  · simpa using Text.ne_nil_of_mem_words charsMember
  · rw [String.toList_ofList]
    exact fun c inWord => (Text.mem_of_mem_words charsMember inWord).2

theorem rawWords_blank_append {blank : String} (isBlank : IsBlank blank)
    (rest : String) : rawWords (blank ++ rest) = rawWords rest := by
  rw [rawWords, String.toList_append,
    Text.words_blank_append (isBlankText_iff.mpr isBlank), rawWords]

theorem rawWords_append_blank {blank : String} (isBlank : IsBlank blank)
    (front : String) : rawWords (front ++ blank) = rawWords front := by
  rw [rawWords, String.toList_append,
    Text.words_append_blank (isBlankText_iff.mpr isBlank), rawWords]

theorem rawWords_append_gap_append {gap : String} (isGap : IsGap gap)
    (front rest : String) :
    rawWords (front ++ gap ++ rest) = rawWords front ++ rawWords rest := by
  rw [rawWords, String.toList_append, String.toList_append,
    Text.words_append_gap_append (isBlankText_iff.mpr isGap.isBlank)
      (by simpa using isGap.ne_empty),
    List.map_append, rawWords, rawWords]

theorem IsToken.rawWords_eq {word : String} (token : IsToken word) :
    rawWords word = [word] := by
  rw [rawWords, Text.words_of_no_blank (by simpa using token.ne_empty)
    token.not_isBlank, List.map_singleton, String.ofList_toList]

theorem rawWords_spaced {first : String} {more : List (String × String)}
    (firstToken : IsToken first)
    (spacedTokens : ∀ next ∈ more, IsGap next.1 ∧ IsToken next.2) :
    rawWords (first ++ spaced more) = first :: more.map Prod.snd := by
  induction more generalizing first with
  | nil => rw [spaced, String.append_empty, firstToken.rawWords_eq, List.map_nil]
  | cons next more ih =>
      obtain ⟨⟨isGap, token⟩, others⟩ := List.forall_mem_cons.mp spacedTokens
      rw [spaced, String.append_assoc, ← String.append_assoc,
        rawWords_append_gap_append isGap, firstToken.rawWords_eq,
        ih token others]
      rfl

theorem words_spaced {first before after : String}
    {more : List (String × String)} (blankBefore : IsBlank before)
    (firstToken : IsToken first)
    (spacedTokens : ∀ next ∈ more, IsGap next.1 ∧ IsToken next.2)
    (blankAfter : IsBlank after) :
    words (before ++ first ++ spaced more ++ after) =
      first :: more.map Prod.snd := by
  have moreLower : (more.map Prod.snd).map lowercase = more.map Prod.snd := by
    rw [List.map_map]
    apply List.map_congr_left
    intro next member
    exact (spacedTokens next member).2.lowercase_eq
  rw [← map_lowercase_rawWords, rawWords_append_blank blankAfter,
    String.append_assoc, rawWords_blank_append blankBefore,
    rawWords_spaced firstToken spacedTokens, List.map_cons,
    firstToken.lowercase_eq, moreLower]

theorem words_append_gap_append {gap : String} (isGap : IsGap gap)
    (front rest : String) :
    words (front ++ gap ++ rest) = words front ++ words rest := by
  rw [← map_lowercase_rawWords, rawWords_append_gap_append isGap,
    List.map_append, map_lowercase_rawWords, map_lowercase_rawWords]

/-- A sentence that is not blank has words, and these are tokens.  Tokens that
are written with gaps between them, and perhaps with blanks around them, are the
words of the text.  A gap between two sentences separates their words. -/
theorem words?_spaced :
    (∀ raw, ¬IsBlank raw → ∃ tokens, words? (some raw) = .ok tokens ∧
        tokens ≠ [] ∧ ∀ token ∈ tokens, IsToken token) ∧
      (∀ before first more after, IsBlank before → IsToken first →
        (∀ next ∈ more, IsGap next.1 ∧ IsToken next.2) → IsBlank after →
          words? (some (before ++ first ++ spaced more ++ after)) =
            .ok (first :: more.map Prod.snd)) ∧
      ∀ front gap rest, ¬IsBlank front → IsGap gap → ¬IsBlank rest →
        ∃ tokens others, words? (some front) = .ok tokens ∧
          words? (some rest) = .ok others ∧
          words? (some (front ++ gap ++ rest)) = .ok (tokens ++ others) := by
  refine ⟨?_, ?_, ?_⟩
  · intro raw notBlank
    have hasWord := mt isBlankText_iff.mp notBlank
    exact ⟨words raw, words?_of_not_isBlank notBlank,
      words_ne_nil (Bool.eq_false_iff.mpr hasWord),
      fun _ => isToken_of_mem_words⟩
  · intro before first more after blankBefore firstToken spacedTokens blankAfter
    have notBlank := firstToken.not_isBlank_append before
      (spaced more ++ after)
    rw [← String.append_assoc] at notBlank
    rw [words?_of_not_isBlank notBlank,
      words_spaced blankBefore firstToken spacedTokens blankAfter]
  · intro front gap rest frontNotBlank isGap restNotBlank
    have notBlank : ¬IsBlank (front ++ gap ++ rest) := by
      intro blank
      apply frontNotBlank
      intro c member
      exact blank c (by simp [member])
    exact ⟨words front, words rest, words?_of_not_isBlank frontNotBlank,
      words?_of_not_isBlank restNotBlank, by
        rw [words?_of_not_isBlank notBlank, words_append_gap_append isGap]⟩

/-- A final sigma and a letter of two characters on the sides of a wide space. -/
theorem words?_spaced_sigma :
    ¬IsBlank "ΟΔΟΣ" ∧ ¬IsBlank "İS" ∧ IsGap "\u3000\t" ∧ IsBlank "" ∧
      IsBlank "\n" ∧ IsToken "οδος" ∧ IsToken "i\u0307s" ∧
      (∃ tokens, words? (some "ΟΔΟΣ") = .ok tokens ∧ tokens ≠ [] ∧
        ∀ token ∈ tokens, IsToken token) ∧
      words? (some ("\n" ++ "οδος" ++ spaced [("\u3000\t", "i\u0307s")] ++
        "")) = .ok ["οδος", "i\u0307s"] ∧
      ∃ tokens others, words? (some "ΟΔΟΣ") = .ok tokens ∧
        words? (some "İS") = .ok others ∧
        words? (some ("ΟΔΟΣ" ++ "\u3000\t" ++ "İS")) =
          .ok (tokens ++ others) := by
  have front : ¬IsBlank "ΟΔΟΣ" := by decide
  have rest : ¬IsBlank "İS" := by decide
  have isGap : IsGap "\u3000\t" := by decide
  have sigma : IsToken "οδος" := by decide +kernel
  have dotted : IsToken "i\u0307s" := by decide +kernel
  obtain ⟨image, roundTrip, separated⟩ := words?_spaced
  exact ⟨front, rest, isGap, by decide, by decide, sigma, dotted,
    image _ front,
    roundTrip "\n" "οδος" [("\u3000\t", "i\u0307s")] "" (by decide) sigma
      (by simp [isGap, dotted]) (by decide),
    separated _ _ _ front isGap rest⟩

end Sentence

end SentenceChart
