import SentenceChart.Loose.Symbol

/-!
# The order of values

Numbers of all types are ordered by their exact values, with the truth values
as one and zero among them, and texts by their code points.  No other values
have an order in common.
-/

namespace SentenceChart

/-- How an integer compares with a floating-point number, if that is a
number. -/
def compareWithReal? (whole : Int) (value : Float) : Option Ordering :=
  if value.isNaN then none
  else if value.isInf then some (if value < 0 then .gt else .lt)
  else
    let (numerator, denominator) :=
      (Text.Binary.ofBits value.toBits.toNat).ratio
    let signed : Int := if value < 0 then -numerator else numerator
    some (compare (whole * denominator) signed)

/-- How two floating-point numbers compare, if they are numbers. -/
def compareReals? (left right : Float) : Option Ordering :=
  if left < right then some .lt
  else if left == right then some .eq
  else if right < left then some .gt
  else none

namespace Datum

/-- How two values compare.  What is called a number but is none has no place
among the numbers. -/
def compare? (left right : Datum) : Except Fault (Option Ordering) :=
  match left, right with
  | .text left, .text right => .ok (some (compare left right))
  | .real left, .real right => .ok (compareReals? left right)
  | .real left, right =>
      match right.integer? with
      | some right => .ok ((compareWithReal? right left).map Ordering.swap)
      | none => .error .notOrdered
  | left, .real right =>
      match left.integer? with
      | some left => .ok (compareWithReal? left right)
      | none => .error .notOrdered
  | left, right =>
      match left.integer?, right.integer? with
      | some left, some right => .ok (some (compare left right))
      | _, _ => .error .notOrdered

/-- Whether a value comes before another one. -/
def isBelow? (left right : Datum) : Except Fault Bool :=
  (left.compare? right).map (· == some .lt)

/-- Whether a value comes before another one or is equal to it. -/
def isAtMost? (left right : Datum) : Except Fault Bool :=
  (left.compare? right).map fun order =>
    order == some .lt || order == some .eq

theorem isBelow?_integer (left right : Int) :
    isBelow? (.integer left) (.integer right) =
      .ok (decide (left < right)) := by
  simp only [isBelow?, compare?, integer?, Except.map, compare,
    compareOfLessAndEq]
  congr 1
  by_cases below : left < right
  · simp [below]
  · by_cases same : left = right <;> simp [below, same]

theorem isAtMost?_integer (left right : Int) :
    isAtMost? (.integer left) (.integer right) =
      .ok (decide (left ≤ right)) := by
  simp only [isAtMost?, compare?, integer?, Except.map, compare,
    compareOfLessAndEq]
  congr 1
  by_cases below : left < right
  · simp [below, Int.le_of_lt below]
  · by_cases same : left = right
    · simp [same]
    · have above : ¬left ≤ right := by omega
      simp [below, same, above]

/-- Values in order.  A value alone is in order whatever it is. -/
def sorted? : List Datum → Except Fault (List Datum)
  | [] => .ok []
  | first :: more =>
      match more.mapM fun value => first.compare? value with
      | .error fault => .error fault
      | .ok _ =>
          .ok ((first :: more).mergeSort fun left right =>
            match right.isBelow? left with
            | .ok below => !below
            | .error _ => true)

end Datum

end SentenceChart
