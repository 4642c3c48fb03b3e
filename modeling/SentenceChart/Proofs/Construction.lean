import Mathlib.Logic.ExistsUnique
import SentenceChart.Proofs.Grammar
import SentenceChart.Proofs.Grouping

/-!
# Which rules make a grammar

A list of rules makes a grammar if its start symbol is a head and every body
fits: it has one symbol, or two that are heads.  Otherwise the error is about the
start symbol, or about the first misfit, where the rules of each head are looked
at together; its text names the start symbol or the misfit.  In a grammar every rule has exactly one of three forms, and every
symbol of a rule is either a terminal or a nonterminal.
-/

namespace SentenceChart

namespace Rule

/-- The body has one symbol, or two that are heads of the rules. -/
def Fits (rules : List Rule) (rule : Rule) : Prop :=
  rule.body.length = 1 ∨
    rule.body.length = 2 ∧
      ∀ symbol ∈ rule.body, ∃ other ∈ rules, other.head = symbol

/-- The rule is the first one that does not fit, when the heads come in the
order of their first rule and the rules of one head in their own order. -/
def IsFirstMisfit (rules : List Rule) (rule : Rule) : Prop :=
  ∃ front back,
    ((heads rules).flatMap fun head => rules.filter (·.head == head)) =
        front ++ rule :: back ∧
      (∀ earlier ∈ front, earlier.Fits rules) ∧ ¬rule.Fits rules

/-- The forms of rules in a grammar. -/
inductive Form where
  | word
  | unit
  | pair

variable {rules : List Rule} {rule : Rule}

theorem isNearNormal_iff :
    rule.isNearNormal (heads rules) = true ↔ rule.Fits rules := by
  rw [isNearNormal, Fits]
  split
  · rename_i symbol bodyEq
    simp [bodyEq]
  · rename_i left right bodyEq
    simp [bodyEq, mem_heads_iff]
  · rename_i notOne notTwo
    constructor
    · intro normal
      cases normal
    · rintro (one | ⟨two, _⟩)
      · obtain ⟨symbol, bodyEq⟩ := List.length_eq_one_iff.mp one
        exact (notOne symbol bodyEq).elim
      · obtain ⟨left, right, bodyEq⟩ := List.length_eq_two.mp two
        exact (notTwo left right bodyEq).elim

theorem fits_grouped_iff : rule.Fits (grouped rules) ↔ rule.Fits rules := by
  simp only [Fits, mem_grouped_iff]

theorem find?_faulty_iff :
    (grouped rules).find? (!·.isNearNormal (heads (grouped rules))) =
        some rule ↔
      rule.IsFirstMisfit rules := by
  rw [List.find?_eq_some_iff_append, IsFirstMisfit, ← grouped_eq_flatMap]
  simp only [Bool.not_not, Bool.not_eq_true', ← Bool.not_eq_true,
    isNearNormal_iff, fits_grouped_iff]
  constructor
  · rintro ⟨misfit, front, back, split, earlierFit⟩
    exact ⟨front, back, split, earlierFit, misfit⟩
  · rintro ⟨front, back, split, earlierFit, misfit⟩
    exact ⟨misfit, front, back, split, earlierFit⟩

end Rule

namespace Grammar

section Errors

variable {rules : List Rule} {start : Symbol}

theorem exists_ofRules?_iff :
    (∃ grammar, ofRules? rules start = .ok grammar) ↔
      start ∈ Rule.heads rules ∧ ∀ rule ∈ rules, rule.Fits rules := by
  simp only [ofRules?_eq_ok_iff]
  constructor
  · rintro ⟨grammar, rfl, grouped⟩
    have start_mem := grammar.start_mem
    have nearNormal := grammar.isNearNormal_of_mem
    rw [grouped] at start_mem
    simp only [grouped, Rule.mem_grouped_iff, Rule.isNearNormal_iff,
      Rule.fits_grouped_iff] at nearNormal
    exact ⟨Rule.mem_heads_grouped_iff.mp start_mem, nearNormal⟩
  · rintro ⟨start_mem, fits⟩
    refine ⟨⟨start, Rule.grouped rules, Rule.grouped_grouped rules,
      Rule.mem_heads_grouped_iff.mpr start_mem, ?_⟩, rfl, rfl⟩
    intro rule member
    apply Rule.isNearNormal_iff.mpr
    apply Rule.fits_grouped_iff.mpr
    exact fits rule (Rule.mem_grouped_iff.mp member)

theorem ofRules?_of_missing (missing : start ∉ Rule.heads rules) :
    ofRules? rules start = .error (.missingStart (.text start)) := by
  rw [ofRules?, dif_neg (mt Rule.mem_heads_grouped_iff.mp missing)]

theorem ofRules?_of_misfit (start_mem : start ∈ Rule.heads rules) {rule : Rule}
    (misfit : rule.IsFirstMisfit rules) :
    ofRules? rules start = .error rule.error := by
  have found := Rule.find?_faulty_iff.mpr misfit
  rw [ofRules?, dif_pos (Rule.mem_heads_grouped_iff.mpr start_mem)]
  split
  · rename_i other otherFound
    rw [found] at otherFound
    cases otherFound
    rfl
  · rename_i nothing
    rw [found] at nothing
    cases nothing

theorem ofRules?_eq_error_iff {error : GrammarError} :
    ofRules? rules start = .error error ↔
      start ∉ Rule.heads rules ∧ error = .missingStart (.text start) ∨
        start ∈ Rule.heads rules ∧
          ∃ rule : Rule, rule.IsFirstMisfit rules ∧ error = rule.error := by
  constructor
  · intro failed
    by_cases start_mem : start ∈ Rule.heads rules
    · cases found : (Rule.grouped rules).find?
          (!·.isNearNormal (Rule.heads (Rule.grouped rules))) with
      | some rule =>
          have misfit := Rule.find?_faulty_iff.mp found
          rw [ofRules?_of_misfit start_mem misfit] at failed
          cases failed
          exact .inr ⟨start_mem, rule, misfit, rfl⟩
      | none =>
          have fits : ∀ rule ∈ rules, rule.Fits rules := by
            intro rule member
            apply Rule.fits_grouped_iff.mp
            apply Rule.isNearNormal_iff.mp
            simpa using List.find?_eq_none.mp found rule
              (Rule.mem_grouped_iff.mpr member)
          obtain ⟨grammar, built⟩ := exists_ofRules?_iff.mpr ⟨start_mem, fits⟩
          rw [built] at failed
          cases failed
    · rw [ofRules?_of_missing start_mem] at failed
      cases failed
      exact .inl ⟨start_mem, rfl⟩
  · rintro (⟨missing, rfl⟩ | ⟨start_mem, rule, misfit, rfl⟩)
    · exact ofRules?_of_missing missing
    · exact ofRules?_of_misfit start_mem misfit

/-- The text about a misfit tells its kind and writes the rule out. -/
theorem message_error (rule : Rule) :
    rule.error.message =
      (if rule.body.length = 2 then
        "binary rule must derive two variables: "
      else
        "right-hand side must have 1 or 2 symbols: ") ++
        rule.head ++ " -> " ++ " ".intercalate rule.body := by
  rw [Rule.error]
  split
  · rw [GrammarError.message_terminalInPair, Rule.toText_eq,
      ← String.append_assoc, ← String.append_assoc]
  · rw [GrammarError.message_wrongLength, Rule.toText_eq,
      ← String.append_assoc, ← String.append_assoc]

end Errors

/-- A rule rewrites its head to one terminal, one nonterminal, or two
nonterminals. -/
inductive HasForm (grammar : Grammar) : Rule → Rule.Form → Prop where
  | word {head word : Symbol} :
      grammar.isTerminal word = true →
      HasForm grammar ⟨head, [word]⟩ .word
  | unit {head target : Symbol} :
      grammar.isTerminal target = false →
      HasForm grammar ⟨head, [target]⟩ .unit
  | pair {head left right : Symbol} :
      grammar.isTerminal left = false →
      grammar.isTerminal right = false →
      HasForm grammar ⟨head, [left, right]⟩ .pair

variable {grammar : Grammar} {rule : Rule}

theorem exists_form (member : rule ∈ grammar.rules) :
    ∃ form, grammar.HasForm rule form := by
  have normal := grammar.isNearNormal_of_mem rule member
  obtain ⟨head, body⟩ := rule
  rw [Rule.isNearNormal] at normal
  split at normal
  · rename_i symbol bodyEq
    cases bodyEq
    cases terminal : grammar.isTerminal symbol with
    | true => exact ⟨_, .word terminal⟩
    | false => exact ⟨_, .unit terminal⟩
  · rename_i left right bodyEq
    cases bodyEq
    rw [Bool.and_eq_true, List.contains_iff_mem, List.contains_iff_mem]
      at normal
    obtain ⟨leftHead, rightHead⟩ := normal
    exact ⟨_, .pair (isTerminal_eq_false_iff.mpr leftHead)
      (isTerminal_eq_false_iff.mpr rightHead)⟩
  · cases normal

theorem HasForm.unique {form other : Rule.Form}
    (hasForm : grammar.HasForm rule form)
    (hasOther : grammar.HasForm rule other) : form = other := by
  cases hasForm with
  | word terminal =>
      cases hasOther with
      | word => rfl
      | unit notTerminal => simp [terminal] at notTerminal
  | unit notTerminal =>
      cases hasOther with
      | word terminal => simp [terminal] at notTerminal
      | unit => rfl
  | pair =>
      cases hasOther with
      | pair => rfl

theorem isUnit_iff :
    rule.isUnit grammar.nonterminals = true ↔ grammar.HasForm rule .unit := by
  constructor
  · intro isUnit
    obtain ⟨head, body⟩ := rule
    rw [Rule.isUnit] at isUnit
    split at isUnit
    · rename_i target bodyEq
      cases bodyEq
      exact .unit (isTerminal_eq_false_iff.mpr
        (List.contains_iff_mem.mp isUnit))
    · cases isUnit
  · intro hasForm
    cases hasForm with
    | unit notTerminal =>
        exact List.contains_iff_mem.mpr (isTerminal_eq_false_iff.mp notTerminal)

theorem mem_terminals_or_nonterminals (member : rule ∈ grammar.rules)
    {symbol : Symbol} (inRule : symbol ∈ rule.head :: rule.body) :
    symbol ∈ grammar.terminals ∨ symbol ∈ grammar.nonterminals := by
  rcases List.mem_cons.mp inRule with rfl | inBody
  · exact .inr (mem_nonterminals_iff.mpr ⟨rule, member, rfl⟩)
  · obtain ⟨form, hasForm⟩ := exists_form member
    cases hasForm with
    | word terminal =>
        cases List.mem_singleton.mp inBody
        exact .inl (mem_terminals_iff.mpr ⟨terminal, _, member⟩)
    | unit notTerminal =>
        cases List.mem_singleton.mp inBody
        exact .inr (isTerminal_eq_false_iff.mp notTerminal)
    | pair notLeft notRight =>
        rcases List.mem_pair.mp inBody with rfl | rfl
        · exact .inr (isTerminal_eq_false_iff.mp notLeft)
        · exact .inr (isTerminal_eq_false_iff.mp notRight)

/-- Exactly the lists of rules that fit make a grammar, if the start symbol is a
head.  A missing start symbol is reported before any rule, and of the rules the
first misfit, each with its text.  In a grammar the rules are told apart by their forms, and the
terminals from the nonterminals. -/
theorem ofRules?_accepts_exactly (rules : List Rule) (start : Symbol) :
    let hasStart := ∃ rule ∈ rules, rule.head = start
    ((∃ grammar, ofRules? rules start = .ok grammar) ↔
        hasStart ∧ ∀ rule ∈ rules, rule.Fits rules) ∧
      (∀ error, ofRules? rules start = .error error ↔
        ¬hasStart ∧ error = .missingStart (.text start) ∨
          hasStart ∧ ∃ rule : Rule, rule.IsFirstMisfit rules ∧
            error = if rule.body.length = 2 then .terminalInPair rule
              else .wrongLength rule) ∧
      (∀ error, ofRules? rules start = .error error →
        ¬hasStart ∧ error.message =
            "start symbol " ++ Text.quote start ++ " has no rules" ∨
          hasStart ∧ ∃ rule : Rule, rule.IsFirstMisfit rules ∧
            error.message =
              (if rule.body.length = 2 then
                "binary rule must derive two variables: "
              else
                "right-hand side must have 1 or 2 symbols: ") ++
                rule.head ++ " -> " ++ " ".intercalate rule.body) ∧
      ∀ grammar, ofRules? rules start = .ok grammar →
        (∀ rule, rule ∈ grammar.rules ↔ rule ∈ rules) ∧
          (∀ rule ∈ grammar.rules, ∃! form, grammar.HasForm rule form) ∧
          (∃ isUnit : Rule → Bool,
            (∀ rule, isUnit rule = true ↔ grammar.HasForm rule .unit) ∧
              grammar.unitRules = grammar.rules.filter isUnit) ∧
          (∀ symbol ∈ grammar.terminals, symbol ∉ grammar.nonterminals) ∧
          ∀ rule ∈ grammar.rules, ∀ symbol ∈ rule.head :: rule.body,
            symbol ∈ grammar.terminals ∨ symbol ∈ grammar.nonterminals := by
  intro hasStart
  have start_mem_iff : start ∈ Rule.heads rules ↔ hasStart :=
    Rule.mem_heads_iff
  refine ⟨?_, ?_, ?_, ?_⟩
  · rw [exists_ofRules?_iff, start_mem_iff]
  · intro error
    rw [ofRules?_eq_error_iff, start_mem_iff]
    rfl
  · intro error failed
    rw [ofRules?_eq_error_iff, start_mem_iff] at failed
    rcases failed with ⟨missing, rfl⟩ | ⟨found, rule, misfit, rfl⟩
    · exact .inl ⟨missing, GrammarError.message_missingStart start⟩
    · exact .inr ⟨found, rule, misfit, message_error rule⟩
  · intro grammar built
    refine ⟨?_, ?_, ⟨_, fun _ => isUnit_iff, rfl⟩, ?_, ?_⟩
    · intro rule
      rw [(ofRules?_eq_ok_iff.mp built).2, Rule.mem_grouped_iff]
    · intro rule member
      obtain ⟨form, hasForm⟩ := exists_form member
      exact ⟨form, hasForm, fun _ hasOther => hasOther.unique hasForm⟩
    · intro symbol terminal nonterminal
      exact not_mem_terminals_of_mem nonterminal terminal
    · intro rule member symbol inRule
      exact mem_terminals_or_nonterminals member inRule

end Grammar

end SentenceChart
