import SentenceChart.Text.Blank

/-!
# Paths

A path is a text with slashes between its names.  The names lead from one
place to the next; `.` stays where it is and `..` goes one place up.  A path
is cut before its last name (`parent`), which makes it shorter
(`length_parent_lt`).
-/

namespace SentenceChart

/-- The names on the way from the root to a file or directory. -/
abbrev Location := List String

namespace Path

/-- The names of a path; an empty one stands before, after or between
slashes. -/
def names (path : String) : List String :=
  (Text.pieces (· == '/') path.toList).map String.ofList

/-- The place that a name leads to from a directory: the directory itself, the
one above it, or an entry in it. -/
def next (location : Location) (name : String) : Location :=
  if name = "" ∨ name = "." then location
  else if name = ".." then location.dropLast
  else location ++ [name]

/-- The place that a path leads to from the root. -/
def location (path : String) : Location :=
  (names path).foldl next []

/-- The path of a place. -/
def ofLocation (location : Location) : String :=
  String.join (location.map ("/" ++ ·))

/-- A path that begins at a directory, unless it begins at the root. -/
def join (directory path : String) : String :=
  if path.startsWith "/" then path
  else if directory.endsWith "/" then directory ++ path
  else directory ++ "/" ++ path

/-- The shortest path that leads from the root to the same place.  Two slashes
at the beginning are kept, but no other number of them. -/
def normal (path : String) : String :=
  let extra := path.startsWith "//" && !path.startsWith "///"
  (if extra then "/" else "") ++ ofLocation (location path)

/-- The path without the slashes at its end. -/
def dropSlashes (path : List Char) : List Char :=
  (path.reverse.dropWhile (· == '/')).reverse

/-- The last name of a path, whatever slashes follow it. -/
def lastName (path : List Char) : List Char :=
  ((dropSlashes path).reverse.takeWhile (· != '/')).reverse

/-- The path before the last name.  The slashes at its end are dropped unless
it has nothing else. -/
def parent (path : List Char) : List Char :=
  let front := ((dropSlashes path).reverse.dropWhile (· != '/')).reverse
  if front.all (· == '/') then front else dropSlashes front

theorem length_dropSlashes_le (path : List Char) :
    (dropSlashes path).length ≤ path.length := by
  simpa [dropSlashes] using
    (List.dropWhile_sublist (· == '/') (l := path.reverse)).length_le

/-- The last name and what stands before it make up the path without the
slashes at its end. -/
theorem length_parent_lt {path : List Char} (named : lastName path ≠ []) :
    (parent path).length < path.length := by
  have whole := congrArg List.length
    (List.takeWhile_append_dropWhile (p := (· != '/'))
      (l := (dropSlashes path).reverse))
  have shorter := length_dropSlashes_le path
  have name : 0 < (lastName path).length := List.length_pos_iff.mpr named
  simp only [lastName, List.length_reverse] at name
  simp only [List.length_append, List.length_reverse] at whole
  have front :
      (parent path).length ≤
        ((dropSlashes path).reverse.dropWhile (· != '/')).length := by
    rw [parent]
    split
    · simp
    · exact Nat.le_trans (length_dropSlashes_le _) (by simp)
  omega

end Path

end SentenceChart
