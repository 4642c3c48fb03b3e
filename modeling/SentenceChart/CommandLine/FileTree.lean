import SentenceChart.CommandLine.Path

/-!
# Trees of files

A tree of directories and files answers the questions that a run asks: what is
the content of a file, can a directory be made, and what is there once it is
made or a file is written.  Paths are followed from left to right, one name
after the other, and begin at the root or at the directory of the run.
-/

namespace SentenceChart

/-- Why a file or directory cannot be used. -/
inductive FileFault where
  /-- There is nothing at the path. -/
  | notFound
  /-- The path is a directory. -/
  | isDirectory
  /-- A part of the path is no directory. -/
  | notDirectory
  /-- The path is taken. -/
  | taken
  /-- The content is no text. -/
  | undecodable
  /-- The path or a name in it is too long. -/
  | tooLong
  /-- The path holds the null character. -/
  | nullCharacter
deriving DecidableEq

/-- A file, or a directory with the names of its entries. -/
inductive FileEntry where
  | file (content : ByteArray)
  | directory (entries : List (String × FileEntry))

namespace FileEntry

/-- The entry at a place below an entry. -/
def at? : FileEntry → Location → Option FileEntry
  | entry, [] => some entry
  | .file _, _ :: _ => none
  | .directory entries, name :: more =>
      match entries.find? (·.1 == name) with
      | some entry => entry.2.at? more
      | none => none

/-- The entry with a change at a place below it.  A file at the place has its
content changed, a directory stays as it is, and the new entry is put where
there is nothing.  The directory above must be there. -/
def alter (new : FileEntry) (change : ByteArray → ByteArray) :
    FileEntry → Location → FileEntry
  | .file content, [] => .file (change content)
  | .directory entries, name :: more =>
      let added :=
        if more.isEmpty && !entries.any (·.1 == name) then [(name, new)]
        else []
      .directory <| (entries.map fun entry =>
        (entry.1,
          if entry.1 == name then alter new change entry.2 more
          else entry.2)) ++ added
  | entry, _ => entry

/-- The entry with a directory at a place below it; a new one is empty. -/
def addDirectory (entry : FileEntry) (location : Location) : FileEntry :=
  alter (.directory []) id entry location

/-- The entry with bytes at the end of the file at a place below it. -/
def append (entry : FileEntry) (location : Location) (bytes : ByteArray) :
    FileEntry :=
  alter (.file bytes) (· ++ bytes) entry location

end FileEntry

/-- A tree of directories and files, seen from one of the directories. -/
structure FileTree where
  /-- The directory at the root. -/
  root : FileEntry
  /-- The directory of the run. -/
  here : Location

namespace FileTree

/-- The null character, which no name holds. -/
def nullCharacter : Char := Char.ofNat 0

/-- The most bytes of a name. -/
def nameLimit : Nat := 255

/-- The most bytes of a path. -/
def pathLimit : Nat := 4095

/-- Whether a name is longer than any entry of a directory can be. -/
def isTooLong (name : String) : Bool :=
  decide (nameLimit < name.utf8ByteSize)

/-- Whether a text holds the null character. -/
def holdsNull (text : String) : Bool :=
  text.toList.contains nullCharacter

def isTaken (tree : FileTree) (location : Location) : Bool :=
  (tree.root.at? location).isSome

def isDirectory (tree : FileTree) (location : Location) : Bool :=
  match tree.root.at? location with
  | some (.directory _) => true
  | _ => false

/-- The place that names lead to from a place. -/
def follow (tree : FileTree) (location : Location) :
    List String → Except FileFault Location
  | [] => .ok location
  | name :: more =>
      if tree.isDirectory location then
        if isTooLong name then .error .tooLong
        else tree.follow (Path.next location name) more
      else if tree.isTaken location then
        .error .notDirectory
      else
        .error .notFound

/-- What keeps a path from being followed at all. -/
def pathFault? (path : String) : Option FileFault :=
  if holdsNull path then some .nullCharacter
  else if pathLimit < path.utf8ByteSize then some .tooLong
  else none

/-- The place that a path leads to; there may be nothing. -/
def locate (tree : FileTree) (path : String) : Except FileFault Location :=
  match pathFault? path with
  | some fault => .error fault
  | none =>
      tree.follow (if path.startsWith "/" then [] else tree.here)
        (Path.names path)

/-- Whether there is a directory at a path. -/
def hasDirectory (tree : FileTree) (path : String) : Bool :=
  match tree.locate path with
  | .ok location => tree.isDirectory location
  | .error _ => false

/-- Whether there is anything at a path. -/
def hasEntry (tree : FileTree) (path : String) : Bool :=
  match tree.locate path with
  | .ok location => tree.isTaken location
  | .error _ => false

/-- The content of the file at a path. -/
def content (tree : FileTree) (path : String) : Except FileFault ByteArray :=
  match tree.locate path with
  | .error fault => .error fault
  | .ok location =>
      match tree.root.at? location with
      | some (.file content) => .ok content
      | some (.directory _) => .error .isDirectory
      | none => .error .notFound

/-- The text in the file at a path. -/
def text (tree : FileTree) (path : String) : Except FileFault String :=
  match tree.content path with
  | .error fault => .error fault
  | .ok bytes =>
      match String.fromUTF8? bytes with
      | some text => .ok text
      | none => .error .undecodable

/-- The place of a file that can be written at a path. -/
def writable (tree : FileTree) (path : String) : Except FileFault Location :=
  match tree.locate path with
  | .error fault => .error fault
  | .ok location =>
      if tree.isDirectory location then .error .isDirectory else .ok location

/-- The tree with bytes at the end of the file at a place. -/
def append (tree : FileTree) (location : Location) (bytes : ByteArray) :
    FileTree :=
  { tree with root := tree.root.append location bytes }

/-- The tree with a new directory at a path.  Slashes may follow its name, and
the directory above must be there. -/
def makeOne (tree : FileTree) (path : List Char) : Except FileFault FileTree :=
  match pathFault? (String.ofList path) with
  | some fault => .error fault
  | none =>
      match tree.locate (String.ofList (Path.dropSlashes path)) with
      | .error fault => .error fault
      | .ok location =>
          if tree.isTaken location then .error .taken
          else .ok { tree with root := tree.root.addDirectory location }

/-- The tree with a directory at a path if it is not there, and the fault in
making it. -/
def ensureOne (tree : FileTree) (path : List Char) :
    FileTree × Option FileFault :=
  match tree.makeOne path with
  | .ok made => (made, none)
  | .error fault =>
      (tree,
        if tree.hasDirectory (String.ofList path) then none else some fault)

/-- The tree with the directories at a path and above it, and the fault in
making them.  Those above are made first, from the root on, if there is
nothing at their path.  A path of theirs that is taken by a file is found out
below it, unless the last name stays where it is. -/
def makeDirectories (tree : FileTree) (path : List Char) :
    FileTree × Option FileFault :=
  if _ : Path.lastName path = [] then
    tree.ensureOne path
  else
    let above := Path.parent path
    if above.isEmpty || tree.hasEntry (String.ofList above) then
      tree.ensureOne path
    else
      match tree.makeDirectories above with
      | (made, fault) =>
          if fault != none && fault != some .taken then (made, fault)
          else if Path.lastName path = ['.'] then (made, none)
          else made.ensureOne path
termination_by path.length
decreasing_by exact Path.length_parent_lt (by assumption)

end FileTree

end SentenceChart
