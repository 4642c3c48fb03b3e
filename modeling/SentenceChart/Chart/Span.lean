import SentenceChart.Text.Decimal

/-!
# Spans and their places

A span names consecutive words of a sentence by its first and its last
position.  The spans of a sentence are kept in one list, by their first and
then by their last position, and `place` is the index of a span there.
-/

namespace SentenceChart.Span

/-- The number of spans of a sentence. -/
def count (length : Nat) : Nat :=
  (length + 1) * length / 2

/-- The index of a span among the spans of a sentence: the rows before its
first position, and its distance from the start of its own row. -/
def place (length first last : Nat) : Nat :=
  first * (2 * length - first + 1) / 2 + (last - first)

/-- All spans of a sentence by their first and then by their last position. -/
def all (length : Nat) : List (Nat × Nat) :=
  (List.range length).flatMap fun first =>
    (List.range (length - first)).map fun further => (first, first + further)

/-- The spans with a number of words by their first position.  The number may
be any integer, and positions outside the sentence are listed as well where
the number is not positive. -/
def ofLength (length : Nat) (words : Int) : List (Int × Int) :=
  (List.range ((length : Int) - words + 1).toNat).map
    fun (first : Nat) => ((first : Int), (first : Int) + words - 1)

/-- The spans of one more word: those of the first word, and the spans of the
other words. -/
theorem all_succ (length : Nat) :
    all (length + 1) =
      (List.range (length + 1)).map (fun last => (0, last)) ++
        (all length).map fun span => (span.1 + 1, span.2 + 1) := by
  simp only [all]
  conv => lhs; rw [List.range_succ_eq_map]
  rw [List.flatMap_cons, List.flatMap_map, List.map_flatMap]
  congr 1
  · simp
  · congr 1
    funext first
    simp only [List.map_map]
    rw [show length + 1 - (first + 1) = length - first by omega]
    apply List.map_congr_left
    intro further _
    simp only [Function.comp, Prod.mk.injEq, true_and]
    omega

theorem length_all (length : Nat) : (all length).length = count length := by
  induction length with
  | zero => rfl
  | succ length ih =>
      rw [all_succ, List.length_append, List.length_map, List.length_map, ih,
        List.length_range, count, count]
      have step : (length + 1 + 1) * (length + 1) =
          (length + 1) * length + (length + 1) * 2 := by
        rw [← Nat.mul_add, Nat.mul_comm]
      rw [step, Nat.add_mul_div_right _ _ (by decide), Nat.add_comm]

theorem mem_all_iff {length : Nat} {span : Nat × Nat} :
    span ∈ all length ↔ span.1 ≤ span.2 ∧ span.2 < length := by
  obtain ⟨first, last⟩ := span
  simp only [all, List.mem_flatMap, List.mem_map, List.mem_range,
    Prod.mk.injEq]
  constructor
  · rintro ⟨_, _, further, _, rfl, rfl⟩
    omega
  · rintro ⟨ordered, inside⟩
    exact ⟨first, by omega, last - first, by omega, rfl, by omega⟩

/-- One more word moves a span that does not begin with it by the length of
the first row. -/
theorem place_succ {length first last : Nat} (ordered : first ≤ last)
    (inside : last < length) :
    place (length + 1) (first + 1) (last + 1) =
      length + 1 + place length first last := by
  have rows : (first + 1) * (2 * (length + 1) - (first + 1) + 1) =
      first * (2 * length - first + 1) + (length + 1) * 2 := by
    obtain ⟨rest, total⟩ : ∃ rest, 2 * length = first + rest :=
      ⟨2 * length - first, by omega⟩
    have width : 2 * length - first + 1 = rest + 1 := by omega
    have wider : 2 * (length + 1) - (first + 1) + 1 = rest + 1 + 1 := by omega
    rw [width, wider, Nat.mul_add first, Nat.add_mul first 1, Nat.mul_add first,
      Nat.mul_add first]
    omega
  rw [place, place, rows, Nat.add_mul_div_right _ _ (by decide)]
  omega

/-- The place of a span is its index in the list of all spans. -/
theorem getElem?_all_place {length first last : Nat} (ordered : first ≤ last)
    (inside : last < length) :
    (all length)[place length first last]? = some (first, last) := by
  induction length generalizing first last with
  | zero => omega
  | succ length ih =>
      rw [all_succ]
      cases first with
      | zero =>
          have early : place (length + 1) 0 last = last := by simp [place]
          rw [early, List.getElem?_append_left (by simpa using inside)]
          simp [inside]
      | succ first =>
          obtain ⟨last, rfl⟩ : ∃ before, last = before + 1 :=
            ⟨last - 1, by omega⟩
          have later : place (length + 1) (first + 1) (last + 1) =
              length + 1 + place length first last :=
            place_succ (by omega) (by omega)
          rw [later, List.getElem?_append_right (by simp)]
          simp [ih (show first ≤ last by omega) (by omega)]

theorem place_lt_count {length first last : Nat} (ordered : first ≤ last)
    (inside : last < length) : place length first last < count length := by
  rw [← length_all]
  exact (List.getElem?_eq_some_iff.mp (getElem?_all_place ordered inside)).1

/-- Two spans with the same place are the same span. -/
theorem place_inj {length first last first' last' : Nat}
    (ordered : first ≤ last) (inside : last < length)
    (ordered' : first' ≤ last') (inside' : last' < length)
    (same : place length first last = place length first' last') :
    first = first' ∧ last = last' := by
  have found := getElem?_all_place ordered inside
  rw [same, getElem?_all_place ordered' inside'] at found
  simp only [Option.some.injEq, Prod.mk.injEq] at found
  exact ⟨found.1.symm, found.2.symm⟩

end SentenceChart.Span
