import Mathlib.Data.List.Nodup
import Mathlib.Data.Set.Function
import Mathlib.Order.Interval.Set.Defs
import SentenceChart.Loose.Chart

/-!
# Charts as stores

Every span of a sentence has a cell of its own, and no other pair of positions
has one.  The places of the spans are the indices of the cells, by the first and
then by the last position.  Hence a change of the cell of a span is seen at this
span only, and after several changes a cell is what the changes of its own span
have made of it.  The spans of each length are listed without repetition, and
together these lists name every span once.
-/

namespace SentenceChart

namespace Span

/-- The spans of a sentence among all pairs of positions. -/
def inside (length : Nat) : Set (Int × Int) :=
  {span | 0 ≤ span.1 ∧ span.1 ≤ span.2 ∧ span.2 < length}

instance (length : Nat) (span : Int × Int) :
    Decidable (span ∈ inside length) :=
  inferInstanceAs (Decidable (0 ≤ span.1 ∧ span.1 ≤ span.2 ∧ span.2 < length))

section Places

variable {length first last first' last' : Nat}

theorem pairwise_all (length : Nat) :
    (all length).Pairwise fun span other =>
      span.1 < other.1 ∨ span.1 = other.1 ∧ span.2 < other.2 := by
  rw [all, List.pairwise_flatMap]
  constructor
  · intro first _
    rw [List.pairwise_map]
    apply List.pairwise_lt_range.imp
    intro further further' shorter
    exact .inr ⟨rfl, Nat.add_lt_add_left shorter first⟩
  · apply List.pairwise_lt_range.imp
    intro first first' before span member other member'
    obtain ⟨_, _, rfl⟩ := List.mem_map.mp member
    obtain ⟨_, _, rfl⟩ := List.mem_map.mp member'
    exact .inl before

theorem before_of_place_lt (ordered : first ≤ last) (isInside : last < length)
    (ordered' : first' ≤ last') (isInside' : last' < length)
    (smaller : place length first last < place length first' last') :
    first < first' ∨ first = first' ∧ last < last' := by
  obtain ⟨bound, found⟩ :=
    List.getElem?_eq_some_iff.mp (getElem?_all_place ordered isInside)
  obtain ⟨bound', found'⟩ :=
    List.getElem?_eq_some_iff.mp (getElem?_all_place ordered' isInside')
  have before := List.pairwise_iff_getElem.mp (pairwise_all length) _ _ bound
    bound' smaller
  rwa [found, found'] at before

theorem place_lt_place_iff (ordered : first ≤ last) (isInside : last < length)
    (ordered' : first' ≤ last') (isInside' : last' < length) :
    place length first last < place length first' last' ↔
      first < first' ∨ first = first' ∧ last < last' := by
  constructor
  · exact before_of_place_lt ordered isInside ordered' isInside'
  · intro before
    -- Spans with places the other way round would be in the other order.
    rcases Nat.lt_trichotomy (place length first last)
      (place length first' last') with smaller | same | greater
    · exact smaller
    · have spans := place_inj ordered isInside ordered' isInside' same
      omega
    · have after :=
        before_of_place_lt ordered' isInside' ordered isInside greater
      omega

theorem exists_place_eq {index : Nat} (small : index < count length) :
    ∃ first last, first ≤ last ∧ last < length ∧
      place length first last = index := by
  rw [← length_all] at small
  have member := List.getElem_mem small
  obtain ⟨ordered, isInside⟩ := mem_all_iff.mp member
  refine ⟨_, _, ordered, isInside, ?_⟩
  obtain ⟨bound, found⟩ :=
    List.getElem?_eq_some_iff.mp (getElem?_all_place ordered isInside)
  have nodup : (all length).Nodup :=
    (pairwise_all length).imp fun before same => by
      subst same
      omega
  exact (nodup.getElem_inj_iff).mp found

end Places

/-- The place of a span that is given by any two integers. -/
def placeOf (length : Nat) (span : Int × Int) : Nat :=
  place length span.1.toNat span.2.toNat

theorem toNat_bounds {length : Nat} {span : Int × Int}
    (isInside : span ∈ inside length) :
    span.1.toNat ≤ span.2.toNat ∧ span.2.toNat < length := by
  obtain ⟨notNegative, ordered, small⟩ := isInside
  omega

theorem eq_of_toNat_eq {length : Nat} {span other : Int × Int}
    (isInside : span ∈ inside length) (isInside' : other ∈ inside length)
    (sameFirst : span.1.toNat = other.1.toNat)
    (sameLast : span.2.toNat = other.2.toNat) : span = other := by
  obtain ⟨notNegative, _, _⟩ := isInside
  obtain ⟨notNegative', _, _⟩ := isInside'
  exact Prod.ext (by omega) (by omega)

theorem placeOf_lt_placeOf_iff {length : Nat} {span other : Int × Int}
    (isInside : span ∈ inside length) (isInside' : other ∈ inside length) :
    placeOf length span < placeOf length other ↔
      Prod.Lex (· < ·) (· < ·) span other := by
  obtain ⟨ordered, small⟩ := toNat_bounds isInside
  obtain ⟨ordered', small'⟩ := toNat_bounds isInside'
  rw [placeOf, placeOf, place_lt_place_iff ordered small ordered' small',
    Prod.lex_def]
  obtain ⟨notNegative, _, _⟩ := isInside
  obtain ⟨notNegative', _, _⟩ := isInside'
  omega

theorem bijOn_placeOf (length : Nat) :
    Set.BijOn (placeOf length) (inside length) (Set.Iio (count length)) := by
  refine ⟨?_, ?_, ?_⟩
  · intro span isInside
    obtain ⟨ordered, small⟩ := toNat_bounds isInside
    exact place_lt_count ordered small
  · intro span isInside other isInside' same
    obtain ⟨ordered, small⟩ := toNat_bounds isInside
    obtain ⟨ordered', small'⟩ := toNat_bounds isInside'
    obtain ⟨sameFirst, sameLast⟩ :=
      place_inj ordered small ordered' small' same
    exact eq_of_toNat_eq isInside isInside' sameFirst sameLast
  · intro index small
    obtain ⟨first, last, ordered, isInside, placeEq⟩ := exists_place_eq small
    refine ⟨((first : Int), (last : Int)), ⟨?_, ?_, ?_⟩, placeEq⟩
    · exact Int.natCast_nonneg first
    · exact Int.ofNat_le.mpr ordered
    · exact Int.ofNat_lt.mpr isInside

/-- In a sentence of four words the places run through ten indices. -/
example :
    (all 4).map (fun span => place 4 span.1 span.2) = List.range 10 := by
  decide

section Lengths

variable {length : Nat} {words : Int}

theorem mem_ofLength_iff (positive : 1 ≤ words) {span : Int × Int} :
    span ∈ ofLength length words ↔
      span ∈ inside length ∧ span.2 - span.1 + 1 = words := by
  obtain ⟨first, last⟩ := span
  simp only [ofLength, inside, List.mem_map, List.mem_range, Set.mem_ofPred_eq,
    Prod.mk.injEq]
  constructor
  · rintro ⟨_, _, rfl, rfl⟩
    omega
  · rintro ⟨⟨notNegative, _, _⟩, _⟩
    exact ⟨first.toNat, by omega, by omega, by omega⟩

theorem nodup_ofLength (length : Nat) (words : Int) :
    (ofLength length words).Nodup := by
  apply List.Nodup.map _ List.nodup_range
  intro first other same
  have sameFirst := (Prod.mk.inj same).1
  omega

theorem count_ofLength {span : Int × Int} (isInside : span ∈ inside length) :
    ((List.range length).flatMap fun (shorter : Nat) =>
      ofLength length (shorter + 1)).count span = 1 := by
  apply List.count_eq_one_of_mem
  · rw [List.nodup_flatMap]
    refine ⟨fun shorter _ => nodup_ofLength length _, ?_⟩
    -- A span has one number of words, so two of the lists share none.
    apply List.nodup_range.imp
    intro shorter other different span member member'
    have words := ((mem_ofLength_iff (by omega)).mp member).2
    have words' := ((mem_ofLength_iff (by omega)).mp member').2
    omega
  · obtain ⟨notNegative, ordered, small⟩ := isInside
    refine List.mem_flatMap.mpr ⟨(span.2 - span.1).toNat, ?_, ?_⟩
    · rw [List.mem_range]
      omega
    · exact (mem_ofLength_iff (by omega)).mpr
        ⟨⟨notNegative, ordered, small⟩, by omega⟩

end Lengths

end Span

namespace Chart

/-- The cell of the span with the given positions. -/
def get? (chart : Chart) (first last : Int) : Except ChartError Cell :=
  (chart.span? first last).map fun span => chart.cell span.1 span.2

/-- The chart with another cell for the span with the given positions. -/
def change? (chart : Chart) (first last : Int) (change : Cell → Cell) :
    Except ChartError Chart :=
  (chart.span? first last).map fun span =>
    chart.modify span.1 span.2 change

/-- The chart after several changes, each with the positions of its span. -/
def changeAll? (chart : Chart) :
    List ((Int × Int) × (Cell → Cell)) → Except ChartError Chart
  | [] => .ok chart
  | ((first, last), change) :: rest =>
      match chart.change? first last change with
      | .error fault => .error fault
      | .ok changed => changed.changeAll? rest

variable {chart changed : Chart} {first last : Int}

theorem span?_of_inside
    (isInside : (first, last) ∈ Span.inside chart.length) :
    chart.span? first last = .ok (first.toNat, last.toNat) :=
  if_pos isInside

theorem span?_of_outside
    (outside : (first, last) ∉ Span.inside chart.length) :
    chart.span? first last = .error (.outside first last chart.length) :=
  if_neg outside

theorem place?_of_inside
    (isInside : (first, last) ∈ Span.inside chart.length) :
    chart.place? first last =
      .ok (Span.placeOf chart.length (first, last)) := by
  rw [place?, span?_of_inside isInside]
  rfl

theorem place?_of_outside
    (outside : (first, last) ∉ Span.inside chart.length) :
    chart.place? first last = .error (.outside first last chart.length) := by
  rw [place?, span?_of_outside outside]
  rfl

theorem place?_eq_error_iff :
    chart.place? first last = .error (.outside first last chart.length) ↔
      (first, last) ∉ Span.inside chart.length := by
  constructor
  · intro failed isInside
    rw [place?_of_inside isInside] at failed
    cases failed
  · exact place?_of_outside

theorem exists_place?_iff :
    (∃ index, chart.place? first last = .ok index) ↔
      (first, last) ∈ Span.inside chart.length := by
  constructor
  · rintro ⟨index, found⟩
    by_contra outside
    rw [place?_of_outside outside] at found
    cases found
  · intro isInside
    exact ⟨_, place?_of_inside isInside⟩

theorem get?_eq_map_place? (chart : Chart) (first last : Int) :
    chart.get? first last =
      (chart.place? first last).map fun index =>
        chart.cells.getD index [] := by
  by_cases isInside : (first, last) ∈ Span.inside chart.length
  · have isSpan : chart.isSpan first.toNat last.toNat = true :=
      isSpan_iff.mpr (Span.toNat_bounds isInside)
    rw [get?, span?_of_inside isInside, place?_of_inside isInside]
    simp only [Except.map, cell, isSpan, if_true, Span.placeOf]
  · rw [get?, span?_of_outside isInside, place?_of_outside isInside]
    rfl

theorem change?_eq_ok_iff {change : Cell → Cell} :
    chart.change? first last change = .ok changed ↔
      (first, last) ∈ Span.inside chart.length ∧
        changed = chart.modify first.toNat last.toNat change := by
  rw [change?]
  by_cases isInside : (first, last) ∈ Span.inside chart.length
  · rw [span?_of_inside isInside]
    simp [Except.map, isInside, eq_comm]
  · rw [span?_of_outside isInside]
    simp [Except.map, isInside]

theorem exists_change?_iff {change : Cell → Cell} :
    (∃ changed, chart.change? first last change = .ok changed) ↔
      (first, last) ∈ Span.inside chart.length := by
  simp [change?_eq_ok_iff]

theorem length_of_change? {change : Cell → Cell}
    (changes : chart.change? first last change = .ok changed) :
    changed.length = chart.length := by
  obtain ⟨_, rfl⟩ := change?_eq_ok_iff.mp changes
  exact length_modify chart first.toNat last.toNat change

theorem get?_of_change? {change : Cell → Cell}
    (changes : chart.change? first last change = .ok changed)
    (first' last' : Int) :
    changed.get? first' last' =
      (chart.get? first' last').map fun cell =>
        if (first', last') = (first, last) then change cell else cell := by
  have sameLength := length_of_change? changes
  obtain ⟨isInside, rfl⟩ := change?_eq_ok_iff.mp changes
  by_cases isInside' : (first', last') ∈ Span.inside chart.length
  · rw [get?, get?, span?_of_inside isInside',
      span?_of_inside (by rwa [sameLength])]
    simp only [Except.map]
    congr 1
    by_cases same : (first', last') = (first, last)
    · cases same
      rw [if_pos rfl]
      exact cell_modify_self change
        (isSpan_iff.mpr (Span.toNat_bounds isInside))
    · rw [if_neg same]
      apply cell_modify_of_ne
      intro sameNat
      obtain ⟨sameFirst, sameLast⟩ := Prod.mk.inj sameNat
      exact same (Span.eq_of_toNat_eq isInside' isInside sameFirst.symm
        sameLast.symm)
  · rw [get?, get?, span?_of_outside isInside',
      span?_of_outside (by rwa [sameLength]), sameLength]
    rfl

theorem exists_changeAll?_iff
    {changes : List ((Int × Int) × (Cell → Cell))} :
    (∃ changed, chart.changeAll? changes = .ok changed) ↔
      ∀ entry ∈ changes, entry.1 ∈ Span.inside chart.length := by
  induction changes generalizing chart with
  | nil => simp [changeAll?]
  | cons entry rest ih =>
      obtain ⟨⟨first, last⟩, change⟩ := entry
      rw [changeAll?, List.forall_mem_cons]
      by_cases isInside : (first, last) ∈ Span.inside chart.length
      · obtain ⟨middle, next⟩ :
            ∃ middle, chart.change? first last change = .ok middle :=
          exists_change?_iff.mpr isInside
        simp only [next, ih, length_of_change? next, isInside, true_and]
      · have refused : ∀ middle,
            chart.change? first last change ≠ .ok middle :=
          fun middle next => isInside (exists_change?_iff.mp ⟨middle, next⟩)
        split
        · simp [isInside]
        · rename_i middle next
          exact (refused middle next).elim

/-- After several changes a cell is what the changes of its own span have made
of it, in their order. -/
theorem get?_of_changeAll? {changes : List ((Int × Int) × (Cell → Cell))}
    (ran : chart.changeAll? changes = .ok changed) (first last : Int) :
    changed.get? first last =
      (chart.get? first last).map fun cell =>
        (changes.filter (·.1 == (first, last))).foldl
          (fun cell change => change.2 cell) cell := by
  induction changes generalizing chart with
  | nil =>
      cases ran
      cases changed.get? first last <;> simp [Except.map]
  | cons entry rest ih =>
      obtain ⟨⟨first', last'⟩, change⟩ := entry
      rw [changeAll?] at ran
      split at ran
      · cases ran
      · rename_i middle next
        rw [ih ran, get?_of_change? next]
        by_cases same : (first', last') = (first, last)
        · cases chart.get? first last <;> simp [Except.map, same]
        · have other : (first, last) ≠ (first', last') := Ne.symm same
          cases chart.get? first last <;> simp [Except.map, same, other]

end Chart

namespace LooseChart

theorem isWithin?_integer (chart : LooseChart) (first last : Int) :
    chart.isWithin? (.integer first) (.integer last) =
      .ok (decide ((first, last) ∈ Span.inside chart.keys.length)) := by
  rw [isWithin?, Datum.isAtMost?_integer, Datum.isAtMost?_integer,
    Datum.isBelow?_integer]
  by_cases notNegative : 0 ≤ first
  · by_cases ordered : first ≤ last <;>
      simp [Span.inside, notNegative, ordered]
  · simp [Span.inside, notNegative]

theorem place?_integer (chart : LooseChart) (first last : Int) :
    chart.place? (.integer first) (.integer last) =
      match chart.keys.place? first last with
      | .ok index => .ok (.integer index)
      | .error _ =>
          .error (.outside (.integer first) (.integer last)
            chart.keys.length) := by
  by_cases isInside : (first, last) ∈ Span.inside chart.keys.length
  · have within : chart.isWithin? (.integer first) (.integer last) =
        .ok true := by
      rw [isWithin?_integer, decide_eq_true isInside]
    rw [Chart.place?_of_inside isInside, place?, span?, within]
    rfl
  · have beyond : chart.isWithin? (.integer first) (.integer last) =
        .ok false := by
      rw [isWithin?_integer, decide_eq_false isInside]
    rw [Chart.place?_of_outside isInside, place?, span?, beyond]

end LooseChart

end SentenceChart
