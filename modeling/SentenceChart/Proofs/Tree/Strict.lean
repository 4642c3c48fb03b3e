import SentenceChart.Proofs.Tree.Search

/-!
# Rebuilding with strict reading

The strict rebuilding reads a cell at the place of its span and a word at its
position, and fails if there is no such place or position.  It goes the way of
the rebuilding otherwise.  It never fails on the spans of a sentence, and gives
the same tree (`strictTreeAt?_eq_some`).
-/

namespace SentenceChart

private theorem exists_of_findSomeM?_eq_some {α β : Type}
    {test : α → Option (Option β)} {items : List α} {result : β}
    (found : items.findSomeM? test = some (some result)) :
    ∃ item ∈ items, test item = some (some result) := by
  induction items with
  | nil => cases found
  | cons item rest ih =>
      rw [List.findSomeM?_cons] at found
      cases tested : test item with
      | none => simp [tested] at found
      | some outcome =>
          cases outcome with
          | some given =>
              rw [tested] at found
              cases found
              exact ⟨item, List.mem_cons_self, tested⟩
          | none =>
              rw [tested] at found
              obtain ⟨later, member, laterTested⟩ := ih found
              exact ⟨later, List.mem_cons_of_mem _ member, laterTested⟩

private theorem findSome?_filterMap {α β γ : Type} (select : α → Option β)
    (choose : β → Option γ) (items : List α) :
    (items.filterMap select).findSome? choose =
      items.findSome? fun item => (select item).bind choose := by
  induction items with
  | nil => rfl
  | cons item rest ih =>
      cases selected : select item with
      | none => simp [selected, ih]
      | some given =>
          cases chosen : choose given with
          | none => simp [selected, chosen, ih]
          | some result => simp [selected, chosen]

private theorem findSomeM?_eq_some_findSome? {α β : Type}
    {test : α → Option (Option β)} {items : List α} (total : α → Option β)
    (same : ∀ item ∈ items, test item = some (total item)) :
    items.findSomeM? test = some (items.findSome? total) := by
  induction items with
  | nil => rfl
  | cons item rest ih =>
      have restSame := ih fun later member =>
        same later (List.mem_cons_of_mem _ member)
      rw [List.findSomeM?_cons, List.findSome?_cons,
        same item List.mem_cons_self, restSame]
      cases total item with
      | none => rfl
      | some given => rfl

namespace Chart

variable {chart : Chart} {grammar : Grammar}

/-- The cell that is stored at the place of a span.  Positions that are no span
have no place. -/
def stored? (chart : Chart) (first last : Nat) : Option Cell :=
  match chart.place? first last with
  | .ok place => chart.cells[place]?
  | .error _ => none

/-- Whether a symbol is in the stored cell of a span. -/
def holds? (chart : Chart) (first last : Nat) (symbol : Symbol) :
    Option Bool :=
  (chart.stored? first last).map (·.contains symbol)

/-- The word that makes the symbol a leaf over the span, if there is one. -/
def strictLeaf? (chart : Chart) (grammar : Grammar) (first last : Nat)
    (symbol : Symbol) : Option (Option String) :=
  if first = last then
    (chart.tokens[first]?).map fun word =>
      if (grammar.bodiesOf symbol).contains [word] then some word else none
  else
    some none

/-- The cut with the two symbols of a body that joins the parts there.  The
second part is looked at only if the first one holds its symbol. -/
def strictJoined? (chart : Chart) (first cut last : Nat) (body : List Symbol) :
    Option (Option (Nat × Symbol × Symbol)) :=
  match body with
  | [left, right] => do
      if ← chart.holds? first cut left then
        if ← chart.holds? (cut + 1) last right then
          return some (cut, left, right)
        else
          return none
      else
        return none
  | _ => return none

/-- The first cut of a span, and the first body of a symbol that joins the parts
there. -/
def strictCut? (chart : Chart) (grammar : Grammar) (first last : Nat)
    (symbol : Symbol) : Option (Option (Nat × Symbol × Symbol)) :=
  (List.range' first (last - first)).findSomeM? fun cut =>
    (grammar.bodiesOf symbol).findSomeM? (chart.strictJoined? first cut last)

theorem strictCut?_bounds {first last cut : Nat} {symbol left right : Symbol}
    (found : chart.strictCut? grammar first last symbol =
      some (some (cut, left, right))) :
    first ≤ cut ∧ cut < last := by
  obtain ⟨position, member, atPosition⟩ :=
    exists_of_findSomeM?_eq_some found
  obtain ⟨body, _, atBody⟩ := exists_of_findSomeM?_eq_some atPosition
  have same : position = cut := by
    unfold strictJoined? at atBody
    split at atBody
    · obtain ⟨inLeft, _, afterLeft⟩ := Option.bind_eq_some_iff.mp atBody
      split at afterLeft
      · obtain ⟨inRight, _, afterRight⟩ :=
          Option.bind_eq_some_iff.mp afterLeft
        split at afterRight
        · cases afterRight
          rfl
        · cases afterRight
      · cases afterLeft
    · cases atBody
  rw [List.mem_range'_1] at member
  omega

/-- The target of a body that hands the span on to a symbol that was not
seen. -/
def strictTarget? (chart : Chart) (grammar : Grammar) (first last : Nat)
    (seen : List Symbol) (body : List Symbol) : Option (Option Symbol) :=
  match body with
  | [target] =>
      if !grammar.isTerminal target && !seen.contains target then
        (chart.holds? first last target).map fun held =>
          if held then some target else none
      else
        some none
  | _ => some none

theorem strictTarget?_fresh {first last : Nat} {seen body : List Symbol}
    {target : Symbol}
    (found : chart.strictTarget? grammar first last seen body =
      some (some target)) :
    target ∈ grammar.nonterminals ∧ target ∉ seen := by
  unfold strictTarget? at found
  split at found
  · split at found
    · rename_i fresh
      obtain ⟨held, _, chosen⟩ := Option.map_eq_some_iff.mp found
      split at chosen
      · cases chosen
        simpa [Grammar.isTerminal_eq_false_iff] using fresh
      · cases chosen
    · cases found
  · cases found

/-- The tree of a symbol over a span, after the given symbols over the same
span, if every cell and every word that it needs is there. -/
def strictTreeAt? (chart : Chart) (grammar : Grammar) (first last : Nat)
    (seen : List Symbol) (symbol : Symbol) : Option Tree :=
  match chart.strictLeaf? grammar first last symbol with
  | none => none
  | some (some word) => some (.leaf symbol word)
  | some none =>
      match _ : chart.strictCut? grammar first last symbol with
      | none => none
      | some (some (cut, left, right)) => do
          let leftTree ← chart.strictTreeAt? grammar first cut [] left
          let rightTree ← chart.strictTreeAt? grammar (cut + 1) last [] right
          return .pair symbol leftTree rightTree
      | some none => do
          let child? ← (grammar.bodiesOf symbol).findSomeM? fun body =>
            match _ : chart.strictTarget? grammar first last (symbol :: seen)
                body with
            | none => none
            | some none => some none
            | some (some target) => do
                let child ← chart.strictTreeAt? grammar first last
                  (symbol :: seen) target
                return if child.isBare then none else some child
          return match child? with
            | some child => .unit symbol child
            | none => .bare symbol
termination_by work grammar (last - first) (symbol :: seen)
decreasing_by
  · rename_i found
    have bounds := strictCut?_bounds found
    exact work_lt_of_shorter (by omega) _ _
  · rename_i found
    have bounds := strictCut?_bounds found
    exact work_lt_of_shorter (by omega) _ _
  · rename_i found
    have fresh := strictTarget?_fresh found
    exact Nat.add_lt_add_left (unseen_cons_lt fresh.1 fresh.2) _

/-- The strict tree of a symbol over the whole sentence. -/
def strictTree? (chart : Chart) (grammar : Grammar) (symbol : Symbol) :
    Option Tree :=
  chart.strictTreeAt? grammar 0 (chart.length - 1) [] symbol

theorem stored?_eq_some {first last : Nat} (ordered : first ≤ last)
    (inside : last < chart.length) :
    chart.stored? first last = some (chart.cell first last) := by
  have span : chart.isSpan first last = true := isSpan_iff.mpr ⟨ordered, inside⟩
  have kept : Span.place chart.length first last < chart.cells.size := by
    rw [chart.size_cells]
    exact Span.place_lt_count ordered inside
  have place : chart.place? first last =
      .ok (Span.place chart.length first last) := by
    rw [place?, span?, if_pos (by omega)]
    rfl
  rw [stored?, place, cell, if_pos span]
  simp [kept]

theorem holds?_eq_some {first last : Nat} (ordered : first ≤ last)
    (inside : last < chart.length) (symbol : Symbol) :
    chart.holds? first last symbol =
      some ((chart.cell first last).contains symbol) := by
  rw [holds?, stored?_eq_some ordered inside]
  rfl

theorem strictLeaf?_eq_some {first last : Nat} (inside : last < chart.length)
    (symbol : Symbol) :
    chart.strictLeaf? grammar first last symbol =
      some (if first == last &&
          (grammar.bodiesOf symbol).contains [chart.token first] then
        some (chart.token first)
      else
        none) := by
  rw [strictLeaf?]
  by_cases same : first = last
  · subst same
    have word : chart.tokens[first]? = some (chart.token first) := by
      rw [length] at inside
      simp [token, inside]
    rw [if_pos rfl, word]
    simp
  · simp [same]

theorem strictJoined?_eq_some {first cut last : Nat} (ordered : first ≤ cut)
    (before : cut < last) (inside : last < chart.length)
    (body : List Symbol) :
    chart.strictJoined? first cut last body =
      some (chart.joined? first cut last body) := by
  rcases body with _ | ⟨left, _ | ⟨right, _ | ⟨third, more⟩⟩⟩
  · rfl
  · rfl
  · rw [strictJoined?, holds?_eq_some ordered (Nat.lt_trans before inside),
      holds?_eq_some before inside, joined?]
    cases (chart.cell first cut).contains left with
    | false => rfl
    | true =>
        cases (chart.cell (cut + 1) last).contains right with
        | false => rfl
        | true => rfl
  · rfl

theorem strictCut?_eq_some {first last : Nat} (inside : last < chart.length)
    (symbol : Symbol) :
    chart.strictCut? grammar first last symbol =
      some (chart.cut? grammar first last symbol) := by
  rw [strictCut?, cut?_eq]
  apply findSomeM?_eq_some_findSome?
  intro cut member
  rw [List.mem_range'_1] at member
  apply findSomeM?_eq_some_findSome?
  intro body _
  exact strictJoined?_eq_some (by omega) (by omega) inside body

theorem strictTarget?_eq_some {first last : Nat} (ordered : first ≤ last)
    (inside : last < chart.length) (seen body : List Symbol) :
    chart.strictTarget? grammar first last seen body =
      some (chart.target? grammar first last seen body) := by
  rcases body with _ | ⟨target, _ | ⟨second, more⟩⟩
  · rfl
  · rw [strictTarget?, holds?_eq_some ordered inside, target?]
    cases !grammar.isTerminal target && !seen.contains target with
    | false => rfl
    | true => rfl
  · rfl

/-- Inside the sentence nothing is missing: the strict tree is the tree.  The
parts of a cut and the targets over a span are inside as well. -/
theorem strictTreeAt?_eq_some (chart : Chart) (grammar : Grammar)
    (first last : Nat) (seen : List Symbol) (symbol : Symbol) :
    first ≤ last → last < chart.length →
      chart.strictTreeAt? grammar first last seen symbol =
        some (chart.treeAt grammar first last seen symbol) := by
  apply chart.treeAt_induction grammar
    (motive := fun first last seen symbol =>
      first ≤ last → last < chart.length →
        chart.strictTreeAt? grammar first last seen symbol =
          some (chart.treeAt grammar first last seen symbol))
  intro first last seen symbol parts units ordered inside
  rw [strictTreeAt?, treeAt_eq, strictLeaf?_eq_some inside,
    strictCut?_eq_some inside]
  by_cases isLeaf : (first == last &&
      (grammar.bodiesOf symbol).contains [chart.token first]) = true
  · rw [if_pos isLeaf, if_pos isLeaf]
  · rw [if_neg isLeaf, if_neg isLeaf]
    cases found : chart.cut? grammar first last symbol with
    | some joined =>
        obtain ⟨cut, left, right⟩ := joined
        obtain ⟨after, before⟩ := cut?_bounds found
        obtain ⟨leftStrict, rightStrict⟩ := parts cut left right found
        simp only [leftStrict after (Nat.lt_trans before inside),
          rightStrict before inside]
        rfl
    | none =>
        simp only [targets_eq, findSome?_filterMap]
        rw [findSomeM?_eq_some_findSome? (fun body =>
          (chart.target? grammar first last (symbol :: seen) body).bind
            fun target =>
              let child :=
                chart.treeAt grammar first last (symbol :: seen) target
              if child.isBare then none else some child)]
        · rfl
        · intro body member
          rw [strictTarget?_eq_some ordered inside]
          cases taken : chart.target? grammar first last (symbol :: seen)
              body with
          | none => rfl
          | some target =>
              have isTarget : target ∈ chart.targets grammar first last
                  (symbol :: seen) symbol :=
                List.mem_filterMap.mpr ⟨body, member, taken⟩
              simp only [units target isTarget ordered inside]
              rfl

end Chart

end SentenceChart
