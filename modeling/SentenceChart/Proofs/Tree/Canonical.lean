import SentenceChart.Proofs.Tree.Derivation

/-!
# The canonical tree

Among the derivations of a sentence from a symbol one is canonical: it prefers
the word, then the smallest cut and the first body there, and then the first
unit rule that leads on without coming back.  The canonical tree is said without
a chart.  It is unique, and it is the tree that is rebuilt from an exact chart.
-/

namespace SentenceChart

namespace Grammar

/-- The body is a nonterminal that is not avoided and derives the sentence, and
from which unit rules lead, past the avoided symbols, to a symbol that meets the
sentence by another rule. -/
def LeadsOn (grammar : Grammar) (sentence avoided body : List Symbol) : Prop :=
  ∃ target, body = [target] ∧ grammar.isTerminal target = false ∧
    target ∉ avoided ∧ grammar.Derives target sentence ∧
    ReachesAvoiding (grammar.UnitStep sentence) (grammar.Meets sentence)
      avoided target

/-- The preferred tree of a symbol over a sentence, after the given symbols over
the same sentence. -/
inductive Canonical (grammar : Grammar) :
    Symbol → List Symbol → List Symbol → Tree → Prop where
  | leaf {symbol word : Symbol} {seen : List Symbol} :
      (⟨symbol, [word]⟩ : Rule) ∈ grammar.rules →
      Canonical grammar symbol [word] seen (.leaf symbol word)
  | pair {symbol left right : Symbol} {sentence seen : List Symbol}
      {size : Nat} {leftTree rightTree : Tree} :
      ¬grammar.HasWord symbol sentence →
      (∀ smaller < size, ∀ body ∈ grammar.bodiesOf symbol,
        ¬grammar.SplitsAs sentence smaller body) →
      IsFirst (grammar.SplitsAs sentence size) (grammar.bodiesOf symbol)
        [left, right] →
      Canonical grammar left (sentence.take size) [] leftTree →
      Canonical grammar right (sentence.drop size) [] rightTree →
      Canonical grammar symbol sentence seen
        (.pair symbol leftTree rightTree)
  | unit {symbol target : Symbol} {sentence seen : List Symbol}
      {child : Tree} :
      ¬grammar.HasWord symbol sentence →
      ¬grammar.HasCut symbol sentence →
      IsFirst (grammar.LeadsOn sentence (symbol :: seen))
        (grammar.bodiesOf symbol) [target] →
      Canonical grammar target sentence (symbol :: seen) child →
      Canonical grammar symbol sentence seen (.unit symbol child)

namespace Canonical

variable {grammar : Grammar} {symbol : Symbol} {sentence seen : List Symbol}
  {tree : Tree}

/-- Two nonterminals are preferred to one, in whatever order the rules come. -/
theorem eq_pair_of_hasCut
    (canonical : grammar.Canonical symbol sentence seen tree)
    (cut : grammar.HasCut symbol sentence) :
    ∃ left right, tree = .pair symbol left right := by
  cases canonical with
  | leaf member => exact absurd ⟨_, rfl, member⟩ cut.not_hasWord
  | pair => exact ⟨_, _, rfl⟩
  | unit _ noCut => exact absurd cut noCut

theorem unique {other : Tree}
    (canonical : grammar.Canonical symbol sentence seen tree)
    (canonical' : grammar.Canonical symbol sentence seen other) :
    tree = other := by
  induction canonical generalizing other with
  | leaf member =>
      cases canonical' with
      | leaf => rfl
      | pair noWord => exact absurd ⟨_, rfl, member⟩ noWord
      | unit noWord => exact absurd ⟨_, rfl, member⟩ noWord
  | @pair symbol left right sentence seen size _ _ noWord smallest isFirst _ _
      ihLeft ihRight =>
      cases canonical' with
      | leaf member => exact absurd ⟨_, rfl, member⟩ noWord
      | @pair _ left' right' _ _ size' _ _ _ smallest' isFirst' canonicalLeft
          canonicalRight =>
          have sameSize : size = size' := by
            rcases Nat.lt_trichotomy size size' with less | same | greater
            · exact absurd isFirst.fits_self
                (smallest' size less _ isFirst.mem)
            · exact same
            · exact absurd isFirst'.fits_self
                (smallest size' greater _ isFirst'.mem)
          subst sameSize
          cases isFirst.unique isFirst'
          rw [ihLeft canonicalLeft, ihRight canonicalRight]
      | unit _ noCut =>
          exact absurd ⟨size, _, isFirst.mem, isFirst.fits_self⟩ noCut
  | unit noWord noCut isFirst _ ih =>
      cases canonical' with
      | leaf member => exact absurd ⟨_, rfl, member⟩ noWord
      | @pair _ _ _ _ _ size _ _ _ _ isFirst' =>
          exact absurd ⟨size, _, isFirst'.mem, isFirst'.fits_self⟩ noCut
      | unit _ _ isFirst' canonicalChild =>
          cases isFirst.unique isFirst'
          rw [ih canonicalChild]

end Canonical

end Grammar

namespace Chart

theorem IsExact.leadsOn_iff {chart : Chart} {grammar : Grammar}
    (exact : chart.IsExact grammar) {first last : Nat} (ordered : first ≤ last)
    (inside : last < chart.length) {avoided body : List Symbol} :
    grammar.LeadsOn (chart.words first last) avoided body ↔
      ∃ target, chart.target? grammar first last avoided body = some target ∧
        (chart.treeAt grammar first last avoided target).isBare = false := by
  have reaches (target : Symbol) :
      ReachesAvoiding (grammar.UnitStep (chart.words first last))
          (grammar.Meets (chart.words first last)) avoided target ↔
        (chart.treeAt grammar first last avoided target).isBare = false := by
    rw [isBare_treeAt_eq_false_iff, exact.reachesAvoiding_iff ordered inside]
  simp only [Grammar.LeadsOn, target?_eq_some_iff, reaches,
    Grammar.isTerminal_eq_false_iff, exact.mem_cell_iff ordered inside,
    and_assoc]

/-- In an exact chart a tree that is not bare is canonical. -/
theorem Rebuilds.canonical {chart : Chart} {grammar : Grammar}
    (exact : chart.IsExact grammar) {first last : Nat} {seen : List Symbol}
    {symbol : Symbol} {tree : Tree}
    (rebuilt : chart.Rebuilds grammar first last seen symbol tree)
    (ordered : first ≤ last) (inside : last < chart.length)
    (notBare : tree.isBare = false) :
    grammar.Canonical symbol (chart.words first last) seen tree := by
  induction rebuilt with
  | leaf member =>
      rw [words_self inside]
      exact .leaf (Grammar.mem_bodiesOf_iff.mp member)
  | @pair first last cut seen symbol left right notLeaf found _ _ ihLeft
      ihRight =>
      obtain ⟨after, before⟩ := cut?_bounds found
      obtain ⟨smallest, isFirst⟩ := isFirst_of_cut?_eq_some found
      have cutInside : cut < chart.length := Nat.lt_trans before inside
      obtain ⟨_, _, bodyEq, inLeft, inRight⟩ := isFirst.fits_self
      cases bodyEq
      have canonicalLeft := ihLeft after cutInside
        ((exact.isBare_treeAt_nil_eq_false_iff after cutInside left).mpr inLeft)
      have canonicalRight := ihRight before inside
        ((exact.isBare_treeAt_nil_eq_false_iff before inside right).mpr inRight)
      rw [← take_words (Nat.le_of_lt before)] at canonicalLeft
      rw [← drop_words after before] at canonicalRight
      refine .pair ?_ ?_ ?_ canonicalLeft canonicalRight
      · rwa [← isLeafAt_iff_hasWord ordered inside]
      · intro smaller less body member splits
        have bounds := splits.size_bounds
        have place : smaller = first + (smaller - 1) - first + 1 := by omega
        rw [place] at splits
        exact smallest (first + (smaller - 1)) (by omega) (by omega) body member
          ((exact.joins_iff (by omega) (by omega) inside body).mpr splits)
      · exact isFirst.congr fun body _ =>
          exact.joins_iff after before inside body
  | @unit first last seen symbol target notLeaf noCut isFirst _ ih =>
      obtain ⟨body, select, firstBody⟩ := IsFirst.of_filterMap isFirst
      obtain ⟨rfl, _⟩ := target?_eq_some_iff.mp select
      refine .unit ?_ ?_ ?_ (ih ordered inside isFirst.fits_self)
      · rwa [← isLeafAt_iff_hasWord ordered inside]
      · rw [← exact.isSome_cut?_iff_hasCut ordered inside, noCut]
        exact Bool.false_ne_true
      · exact firstBody.congr fun body _ =>
          (exact.leadsOn_iff ordered inside).symm
  | bare => cases notBare

end Chart

namespace Grammar

/-- The tree that is rebuilt from a filled chart is the canonical one, and it
prefers two nonterminals to one. -/
theorem canonical_iff_eq_tree {grammar : Grammar} {limit : Option Int}
    {tokens : List String} {chart : Chart}
    (filled : grammar.chart? limit tokens = .ok chart) {symbol : Symbol}
    (member : symbol ∈ chart.cell 0 (chart.length - 1)) :
    (∀ tree, grammar.Canonical symbol chart.tokens [] tree ↔
      tree = chart.tree grammar symbol) ∧
      (grammar.HasCut symbol chart.tokens →
        ∃ left right, chart.tree grammar symbol = .pair symbol left right) := by
  have exact := isExact_of_chart? filled
  have canonical : grammar.Canonical symbol chart.tokens []
      (chart.tree grammar symbol) := by
    rw [← chart.words_whole]
    exact (chart.rebuilds_treeAt grammar _ _ _ _).canonical exact
      (Nat.zero_le _) chart.last_lt
      ((exact.isBare_tree_eq_false_iff symbol).mpr member)
  constructor
  · intro tree
    constructor
    · intro canonical'
      exact canonical'.unique canonical
    · rintro rfl
      exact canonical
  · exact canonical.eq_pair_of_hasCut

theorem hasCut_cyclic : cyclic.HasCut "S" ["go", "go"] := by
  refine ⟨1, ["S", "A"], by decide, "S", "A", rfl, ?_, derives_cyclic_one⟩
  exact .unit (by decide) (by decide) derives_cyclic_one

/-- The cut is preferred although the unit rule to `A` comes first. -/
theorem canonical_iff_eq_tree_cyclic :
    ∃ chart, cyclic.chart? (some 2) ["Go", "GO"] = .ok chart ∧
      "S" ∈ chart.cell 0 (chart.length - 1) ∧
      cyclic.Canonical "S" ["go", "go"] [] (chart.tree cyclic "S") ∧
      ∃ left right, chart.tree cyclic "S" = .pair "S" left right := by
  obtain ⟨chart, filled⟩ := exists_chart?_cyclic
  have exact := isExact_of_chart? filled
  have tokens := tokens_of_chart? filled
  rw [cyclic_lowercase] at tokens
  have held : "S" ∈ chart.whole := by
    rw [exact.mem_whole_iff, tokens]
    exact derives_cyclic
  obtain ⟨canonical_iff, prefersCut⟩ := canonical_iff_eq_tree filled held
  rw [tokens] at canonical_iff prefersCut
  exact ⟨chart, filled, held, (canonical_iff _).mpr rfl,
    prefersCut hasCut_cyclic⟩

end Grammar

end SentenceChart
