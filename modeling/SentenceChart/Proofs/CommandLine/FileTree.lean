import SentenceChart.CommandLine.FileTree

/-!
# Files that are kept

Making directories and writing to a file leave everything else in a tree of
files as it is: directories stay directories, files stay files, and only the
file that is written has another content.  So a path that leads somewhere leads
to the same place afterwards, and the text there is the same unless it was
written.  A path that leads nowhere may end at another place afterwards; it
does not if nothing new stands on its way.
-/

namespace SentenceChart

namespace FileEntry

/-- The content of a file; a directory has none. -/
def content? : FileEntry → Option ByteArray
  | .file content => some content
  | .directory _ => none

/-- The content of the entry at a place below an entry. -/
def contentAt? (entry : FileEntry) (location : Location) :
    Option (Option ByteArray) :=
  (entry.at? location).map content?

@[simp] theorem contentAt?_nil (entry : FileEntry) :
    entry.contentAt? [] = some entry.content? :=
  rfl

theorem contentAt?_directory_cons (entries : List (String × FileEntry))
    (name : String) (more : Location) :
    (directory entries).contentAt? (name :: more) =
      (entries.find? (·.1 == name)).bind (·.2.contentAt? more) := by
  rw [contentAt?, at?]
  cases entries.find? (·.1 == name) with
  | none => rfl
  | some found => rfl

theorem contentAt?_alter (new : FileEntry) (change : ByteArray → ByteArray)
    {entry : FileEntry} (place : Location) {location : Location}
    {content : Option ByteArray}
    (found : entry.contentAt? location = some content) :
    (alter new change entry place).contentAt? location =
      some (if location = place then content.map change else content) := by
  induction place generalizing entry location with
  | nil =>
      cases entry with
      | file bytes =>
          cases location with
          | nil =>
              cases found
              rfl
          | cons key rest => cases found
      | directory entries =>
          cases location with
          | nil =>
              cases found
              rfl
          | cons key rest => simpa [alter] using found
  | cons name more induction =>
      cases entry with
      | file bytes =>
          cases location with
          | nil => simpa [alter] using found
          | cons key rest => cases found
      | directory entries =>
          cases location with
          | nil => simpa [alter, content?] using found
          | cons key rest =>
              rw [contentAt?_directory_cons] at found
              obtain ⟨entry, named, below⟩ := Option.bind_eq_some_iff.mp found
              have same : entry.1 = key := by
                simpa using List.find?_some named
              rw [alter, contentAt?_directory_cons, List.find?_append,
                List.find?_map]
              simp only [Function.comp_def, named, Option.map_some,
                Option.some_or, Option.bind_some, same, List.cons.injEq]
              by_cases here : key = name
              · simp only [here, beq_self_eq_true, if_true, true_and]
                exact induction below
              · simpa [here] using below

end FileEntry

namespace FileTree

/-- The content of the entry at a place. -/
def contentAt? (tree : FileTree) (location : Location) :
    Option (Option ByteArray) :=
  tree.root.contentAt? location

theorem isTaken_eq (tree : FileTree) (location : Location) :
    tree.isTaken location = (tree.contentAt? location).isSome := by
  rw [isTaken, contentAt?, FileEntry.contentAt?, Option.isSome_map]

theorem isDirectory_iff {tree : FileTree} {location : Location} :
    tree.isDirectory location = true ↔
      tree.contentAt? location = some none := by
  rw [isDirectory, contentAt?, FileEntry.contentAt?]
  split
  · next found => simp [found, FileEntry.content?]
  · next other =>
      cases found : tree.root.at? location with
      | none => simp
      | some entry =>
          cases entry with
          | file content => simp [FileEntry.content?]
          | directory entries => exact absurd found (other entries)

theorem isDirectory_of_free {tree : FileTree} {location : Location}
    (free : tree.isTaken location = false) :
    tree.isDirectory location = false := by
  rw [isTaken_eq, Option.isSome_eq_false_iff, Option.isNone_iff_eq_none]
    at free
  rw [Bool.eq_false_iff]
  intro directory
  rw [isDirectory_iff, free] at directory
  cases directory

theorem content_of_locate {tree : FileTree} {path : String}
    {location : Location} (reached : tree.locate path = .ok location) :
    tree.content path =
      match tree.contentAt? location with
      | some (some content) => .ok content
      | some none => .error .isDirectory
      | none => .error .notFound := by
  rw [content, reached, contentAt?, FileEntry.contentAt?]
  dsimp only
  cases tree.root.at? location with
  | none => rfl
  | some entry =>
      cases entry with
      | file content => rfl
      | directory entries => rfl

theorem hasEntry_of_locate {tree : FileTree} {path : String}
    {location : Location} (reached : tree.locate path = .ok location) :
    tree.hasEntry path = (tree.contentAt? location).isSome := by
  rw [hasEntry, reached]
  exact tree.isTaken_eq location

theorem locate_of_writable {tree : FileTree} {path : String}
    {location : Location} (writable : tree.writable path = .ok location) :
    tree.locate path = .ok location := by
  rw [FileTree.writable] at writable
  split at writable
  · cases writable
  · next reached =>
      split at writable
      · cases writable
      · rw [reached, writable]

theorem text_of_locate_error {tree : FileTree} {path : String}
    {fault : FileFault} (lost : tree.locate path = .error fault) :
    tree.text path = .error fault := by
  rw [text, content, lost]

theorem text_of_noEntry {tree : FileTree} {path : String}
    (missing : tree.hasEntry path = false) :
    ∃ fault, tree.text path = .error fault := by
  cases reached : tree.locate path with
  | error fault => exact ⟨fault, text_of_locate_error reached⟩
  | ok location =>
      rw [hasEntry_of_locate reached, Option.isSome_eq_false_iff,
        Option.isNone_iff_eq_none] at missing
      rw [text, content_of_locate reached, missing]
      exact ⟨.notFound, rfl⟩

/-- Everything in one tree is in another: the directories, and the files with
their content, except that of the file at a written place. -/
structure GrowsInto (before after : FileTree) (written : Option Location) :
    Prop where
  here : after.here = before.here
  directory : ∀ location, before.contentAt? location = some none →
    after.contentAt? location = some none
  file : ∀ location content,
    before.contentAt? location = some (some content) →
    ∃ content', after.contentAt? location = some (some content') ∧
      (written ≠ some location → content' = content)

namespace GrowsInto

variable {before middle after : FileTree} {written : Option Location}

theorem refl (tree : FileTree) (written : Option Location) :
    tree.GrowsInto tree written where
  here := rfl
  directory _ found := found
  file _ content found := ⟨content, found, fun _ => rfl⟩

theorem trans (first : before.GrowsInto middle written)
    (second : middle.GrowsInto after written) :
    before.GrowsInto after written where
  here := second.here.trans first.here
  directory location found :=
    second.directory location (first.directory location found)
  file location content found := by
    obtain ⟨content', found', same⟩ := first.file location content found
    obtain ⟨content'', found'', same'⟩ := second.file location content' found'
    exact ⟨content'', found'', fun other => (same' other).trans (same other)⟩

end GrowsInto

section Growth

variable {tree after : FileTree} {written : Option Location}

/-- A change at a place keeps the tree if it keeps contents or the place is the
written one. -/
theorem growsInto_alter (new : FileEntry) (change : ByteArray → ByteArray)
    (tree : FileTree) (location : Location)
    (spares : ∀ content, change content = content ∨ written = some location) :
    tree.GrowsInto
      { tree with root := FileEntry.alter new change tree.root location }
      written where
  here := rfl
  directory place found := by
    rw [contentAt?, FileEntry.contentAt?_alter new change location found,
      Option.map_none, ite_self]
  file place content found := by
    rw [contentAt?, FileEntry.contentAt?_alter new change location found]
    by_cases here : place = location
    · refine ⟨change content, by rw [if_pos here]; rfl, fun other => ?_⟩
      rcases spares content with same | written
      · exact same
      · exact absurd (here ▸ written) other
    · exact ⟨content, by rw [if_neg here], fun _ => rfl⟩

theorem growsInto_append (tree : FileTree) (location : Location)
    (bytes : ByteArray) :
    tree.GrowsInto (tree.append location bytes) (some location) :=
  growsInto_alter _ _ tree location fun _ => .inr rfl

theorem growsInto_addDirectory (tree : FileTree) (location : Location) :
    tree.GrowsInto { tree with root := tree.root.addDirectory location }
      written :=
  growsInto_alter _ _ tree location fun _ => .inl rfl

theorem growsInto_of_makeOne {path : List Char}
    (made : tree.makeOne path = .ok after) : tree.GrowsInto after written := by
  rw [makeOne] at made
  split at made
  · cases made
  · split at made
    · cases made
    · split at made
      · cases made
      · cases made
        exact tree.growsInto_addDirectory _

theorem growsInto_ensureOne (tree : FileTree) (path : List Char) :
    tree.GrowsInto (tree.ensureOne path).1 written := by
  rw [ensureOne]
  split
  · next made => exact growsInto_of_makeOne made
  · exact .refl tree written

/-- With nothing above the last name, only one directory is made. -/
theorem makeDirectories_of_parent_eq_nil (tree : FileTree) {path : List Char}
    (named : Path.lastName path ≠ []) (top : Path.parent path = []) :
    tree.makeDirectories path = tree.ensureOne path := by
  rw [makeDirectories, dif_neg named]
  simp only [top, List.isEmpty_nil, Bool.true_or, if_true]

theorem growsInto_makeDirectories (tree : FileTree) (path : List Char) :
    tree.GrowsInto (tree.makeDirectories path).1 written := by
  fun_induction makeDirectories tree path with
  | case1 path unnamed => exact tree.growsInto_ensureOne path
  | case2 path named above there => exact tree.growsInto_ensureOne path
  | case3 path named above missing made fault madeAbove stopped induction =>
      rw [madeAbove] at induction
      exact induction
  | case4 path named above missing made fault madeAbove goesOn atDot
      induction =>
      rw [madeAbove] at induction
      exact induction
  | case5 path named above missing made fault madeAbove goesOn notDot
      induction =>
      rw [madeAbove] at induction
      exact induction.trans (made.growsInto_ensureOne path)

end Growth

/-- The places that a path leads through, the last one included. -/
def way (tree : FileTree) (path : String) : List Location :=
  (Path.names path).scanl Path.next
    (if path.startsWith "/" then [] else tree.here)

theorem follow_cons_eq_ok_iff {tree : FileTree} {location place : Location}
    {name : String} {more : List String} :
    tree.follow location (name :: more) = .ok place ↔
      tree.isDirectory location = true ∧ isTooLong name = false ∧
        tree.follow (Path.next location name) more = .ok place := by
  rw [follow]
  cases tree.isDirectory location with
  | false => cases tree.isTaken location <;> simp
  | true => cases isTooLong name <;> simp

namespace GrowsInto

variable {before after : FileTree} {written : Option Location}

theorem isDirectory (grows : before.GrowsInto after written)
    {location : Location} (found : before.isDirectory location = true) :
    after.isDirectory location = true :=
  isDirectory_iff.mpr (grows.directory location (isDirectory_iff.mp found))

theorem contentAt?_eq (grows : before.GrowsInto after written)
    {location : Location} (taken : (before.contentAt? location).isSome = true)
    (other : written ≠ some location) :
    after.contentAt? location = before.contentAt? location := by
  obtain ⟨content, found⟩ := Option.isSome_iff_exists.mp taken
  cases content with
  | none => rw [found, grows.directory location found]
  | some content =>
      obtain ⟨content', found', same⟩ := grows.file location content found
      rw [found, found', same other]

theorem kind_eq (grows : before.GrowsInto after written)
    {location : Location} (taken : before.isTaken location = true) :
    after.isDirectory location = before.isDirectory location ∧
      after.isTaken location = true := by
  rw [isTaken_eq] at taken ⊢
  obtain ⟨content, found⟩ := Option.isSome_iff_exists.mp taken
  cases content with
  | none =>
      have kept := grows.directory location found
      rw [isDirectory_iff.mpr found, isDirectory_iff.mpr kept, kept]
      exact ⟨rfl, rfl⟩
  | some content =>
      obtain ⟨content', kept, -⟩ := grows.file location content found
      refine ⟨?_, by rw [kept]; rfl⟩
      rw [Bool.eq_iff_iff, isDirectory_iff, isDirectory_iff, found, kept]
      simp

theorem follow_of_ok (grows : before.GrowsInto after written)
    {names : List String} {location place : Location}
    (reached : before.follow location names = .ok place) :
    after.follow location names = .ok place := by
  induction names generalizing location with
  | nil => exact reached
  | cons name more induction =>
      obtain ⟨directory, short, further⟩ := follow_cons_eq_ok_iff.mp reached
      exact follow_cons_eq_ok_iff.mpr
        ⟨grows.isDirectory directory, short, induction further⟩

theorem locate_of_ok (grows : before.GrowsInto after written) {path : String}
    {place : Location} (reached : before.locate path = .ok place) :
    after.locate path = .ok place := by
  rw [locate] at reached ⊢
  split at reached
  · cases reached
  · rw [grows.here]
    exact grows.follow_of_ok reached

theorem follow_eq (grows : before.GrowsInto after written)
    {names : List String} {location : Location}
    (spared : ∀ place ∈ names.scanl Path.next location,
      before.isTaken place = false → after.isTaken place = false) :
    after.follow location names = before.follow location names := by
  induction names generalizing location with
  | nil => rfl
  | cons name more induction =>
      rw [List.scanl_cons, List.forall_mem_cons] at spared
      obtain ⟨here, further⟩ := spared
      rw [follow, follow, induction further]
      cases taken : before.isTaken location with
      | true =>
          obtain ⟨directory, taken'⟩ := grows.kind_eq taken
          rw [directory, taken']
      | false =>
          rw [isDirectory_of_free taken, isDirectory_of_free (here taken),
            here taken]

theorem locate_eq (grows : before.GrowsInto after written) {path : String}
    (spared : ∀ place ∈ before.way path,
      before.isTaken place = false → after.isTaken place = false) :
    after.locate path = before.locate path := by
  rw [locate, locate]
  split
  · rfl
  · rw [grows.here]
    exact grows.follow_eq spared

theorem text_eq (grows : before.GrowsInto after written) {path : String}
    (there : before.hasEntry path = true)
    (elsewhere : ∀ place, written = some place →
      after.locate path ≠ .ok place) :
    after.text path = before.text path := by
  cases reached : before.locate path with
  | error fault =>
      rw [hasEntry, reached] at there
      cases there
  | ok location =>
      have reached' := grows.locate_of_ok reached
      have other : written ≠ some location := fun same =>
        elsewhere location same reached'
      rw [hasEntry_of_locate reached] at there
      rw [text, text, content_of_locate reached, content_of_locate reached',
        grows.contentAt?_eq there other]

theorem text_eq_of_way (grows : before.GrowsInto after written) {path : String}
    (makesNothing :
      before.hasEntry path = false → after.hasEntry path = false)
    (elsewhere : ∀ place, written = some place →
      after.locate path ≠ .ok place)
    (spared : ∀ place ∈ before.way path,
      before.isTaken place = false → after.isTaken place = false) :
    after.text path = before.text path := by
  cases there : before.hasEntry path with
  | true => exact grows.text_eq there elsewhere
  | false =>
      have same := grows.locate_eq spared
      have there' := makesNothing there
      cases reached : before.locate path with
      | error fault =>
          rw [text_of_locate_error reached,
            text_of_locate_error (same.trans reached)]
      | ok location =>
          have reached' := same.trans reached
          rw [hasEntry_of_locate reached, Option.isSome_eq_false_iff,
            Option.isNone_iff_eq_none] at there
          rw [hasEntry_of_locate reached', Option.isSome_eq_false_iff,
            Option.isNone_iff_eq_none] at there'
          rw [text, text, content_of_locate reached,
            content_of_locate reached', there, there']

end GrowsInto

end FileTree

end SentenceChart
