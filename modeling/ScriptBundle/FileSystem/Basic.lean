/-
# File systems

A file system is a finite table of entries, each at its location, together with a working directory.
Paths are followed as the system follows them, piece by piece: what a path passes through must be a
directory, and so must what it ends at when a slash stands behind it.

## Main content

- `node?` is the view of a file system: what stands at a location.  `node?_insert` and
  `node?_erase` say how the two basic changes show in it.
- `locate` turns a path into a location; `stat`, `isFile`, `isDirectory`, `readBytes` and `readText`
  look at what stands there.
- `entries` lists the names in a directory.
-/
import ScriptBundle.FileSystem.Fault
import ScriptBundle.Path
import ScriptBundle.Text.Utf8

namespace ScriptBundle

/-- The names that lead from the root to an entry. -/
abbrev Location := List Text

/-- What stands at a location. -/
inductive Node where
  /-- A file with its content. -/
  | file (content : Bytes)
  /-- A directory. -/
  | directory
  /-- The device that is always empty and keeps nothing. -/
  | nullDevice
  deriving DecidableEq

/-- All files and directories, and the directory that relative paths start from. -/
structure FileSystem where
  /-- The entries below the root, each at its location. -/
  nodes : List (Location × Node) := []
  /-- The location of the working directory. -/
  cwd : Location := []
  /-- Whether the working directory was taken away.  A directory that is made in its place later is
  not the working directory. -/
  adrift : Bool := false
  deriving DecidableEq

namespace FileSystem

/-! ## Entries -/

/-- What stands at a location, if anything.  The root is always a directory. -/
def node? (fs : FileSystem) (place : Location) : Option Node :=
  if place = [] then some .directory else fs.nodes.lookup place

/-- Puts a file or directory at a location, in place of what stood there. -/
def insert (fs : FileSystem) (place : Location) (node : Node) : FileSystem :=
  { fs with nodes := (place, node) :: fs.nodes.filter (·.1 ≠ place) }

/-- Takes away what stands at a location. -/
def erase (fs : FileSystem) (place : Location) : FileSystem :=
  { fs with nodes := fs.nodes.filter (·.1 ≠ place) }

/-- Looking up another key is not changed by dropping the entries of a key. -/
theorem lookup_filter_ne {place other : Location} (h : other ≠ place)
    (nodes : List (Location × Node)) :
    (nodes.filter (·.1 ≠ place)).lookup other = nodes.lookup other := by
  induction nodes with
  | nil => rfl
  | cons entry nodes ih =>
    by_cases hp : entry.1 = place
    · rw [List.filter_cons_of_neg (by simp [hp]), ih, List.lookup_cons]
      simp [hp, beq_eq_false_iff_ne.2 h]
    · rw [List.filter_cons_of_pos (by simp [hp]), List.lookup_cons, List.lookup_cons, ih]

/-- A key whose entries are dropped is not found. -/
theorem lookup_filter_self (place : Location) (nodes : List (Location × Node)) :
    (nodes.filter (·.1 ≠ place)).lookup place = none := by
  rw [List.lookup_eq_none_iff]
  intro entry hentry
  have := (List.mem_filter.1 hentry).2
  simp only [ne_eq, decide_not, Bool.not_eq_true', decide_eq_false_iff_not] at this
  simpa using fun h => this h.symm

/-- What is put somewhere stands there, and all else stays as it was. -/
theorem node?_insert (fs : FileSystem) {place : Location} (h : place ≠ []) (node : Node)
    (other : Location) :
    (fs.insert place node).node? other = if other = place then some node else fs.node? other := by
  unfold node? insert
  by_cases ho : other = place
  · subst ho; simp [h]
  · simp only [ho, if_false]
    by_cases hr : other = []
    · simp [hr]
    · rw [List.lookup_cons]
      simp only [beq_eq_false_iff_ne.2 ho]
      simp only [hr, if_false]
      exact lookup_filter_ne ho fs.nodes

/-- What is taken away is gone, and all else stays as it was. -/
theorem node?_erase (fs : FileSystem) {place : Location} (h : place ≠ []) (other : Location) :
    (fs.erase place).node? other = if other = place then none else fs.node? other := by
  unfold node? erase
  by_cases ho : other = place
  · subst ho
    simp only [h, if_false, if_true]
    exact lookup_filter_self other fs.nodes
  · simp only [ho, if_false]
    by_cases hr : other = []
    · simp [hr]
    · simp only [hr, if_false]
      exact lookup_filter_ne ho fs.nodes

/-- The names of the entries in a directory. -/
def entries (fs : FileSystem) (place : Location) : List Text :=
  fs.nodes.filterMap fun (location, _) =>
    if location.dropLast = place then location.getLast? else none

/-! ## Following paths -/

/-- The longest name of an entry, in bytes. -/
def nameLimit : Nat := 255

/-- The number of bytes below which a path must stay. -/
def pathLimit : Nat := 4096

/-- Goes from a directory to what a piece of a path names in it, which need not exist yet. -/
def enter (fs : FileSystem) (place : Location) (piece : Text) : Except IoFault Location :=
  match fs.node? place with
  | none => .error .notFound
  | some (.file _) | some .nullDevice => .error .notDirectory
  | some .directory =>
    if piece = [] ∨ piece = ['.'] then .ok place
    else if piece = ['.', '.'] then .ok place.dropLast
    else if nameLimit < Utf8.size piece then .error .nameTooLong
    else .ok (place ++ [piece])

/-- Refuses what no path can be. -/
def checkPath (p : Path) : Except IoFault Unit :=
  if '\x00' ∈ p.text then .error .zeroInPath
  else if p.text = [] then .error .notFound
  else if pathLimit ≤ Utf8.size p.text then .error .nameTooLong
  else .ok ()

/-- Where following a path starts, and the pieces that are left to follow.  A working directory that
was taken away has no entries, but its `..` is still the directory that it stood in. -/
def start (fs : FileSystem) (p : Path) (pieces : List Text) :
    Except IoFault (Location × List Text) :=
  if p.isAbsolute then .ok ([], pieces)
  else if fs.adrift then
    match pieces.dropWhile fun piece => piece = [] ∨ piece = ['.'] with
    | ['.', '.'] :: rest => .ok (fs.cwd.dropLast, rest)
    | _ => .error .notFound
  else .ok (fs.cwd, pieces)

/-- Follows pieces of a path.  All that they pass through must be a directory. -/
def follow (fs : FileSystem) (p : Path) (pieces : List Text) : Except IoFault Location := do
  let (place, rest) ← fs.start p pieces
  rest.foldlM fs.enter place

/-- The location that a path leads to. -/
def locate (fs : FileSystem) (p : Path) : Except IoFault Location := do
  checkPath p
  fs.follow p p.pieces

/-- What stands at the end of a path. -/
def stat (fs : FileSystem) (p : Path) : Except IoFault Node := do
  match fs.node? (← fs.locate p) with
  | some node => .ok node
  | none => .error .notFound

/-- Whether a path leads to a file. -/
def isFile (fs : FileSystem) (p : Path) : Bool :=
  match fs.stat p with
  | .ok (.file _) => true
  | _ => false

/-- Whether a path leads to a directory. -/
def isDirectory (fs : FileSystem) (p : Path) : Bool :=
  match fs.stat p with
  | .ok .directory => true
  | _ => false

/-- The bytes of the file at the end of a path. -/
def readBytes (fs : FileSystem) (p : Path) : Except IoFault Bytes := do
  match ← fs.stat p with
  | .file content => .ok content
  | .nullDevice => .ok []
  | .directory => .error .isDirectory

/-- The text of the file at the end of a path. -/
def readText (fs : FileSystem) (p : Path) : Except IoFault Text := do
  match Utf8.decode? (← fs.readBytes p) with
  | some text => .ok text
  | none => .error .notUtf8

/-- The names in the directory at the end of a path, or `none` where no directory stands. -/
def list? (fs : FileSystem) (p : Path) : Option (List Text) :=
  match fs.locate p with
  | .ok place => if fs.node? place = some .directory then some (fs.entries place) else none
  | .error _ => none

/-! ## Filling a file system -/

/-- Makes a directory, and the directories that lead to it, where nothing stands yet. -/
def makeDirectories (fs : FileSystem) (place : Location) : FileSystem :=
  (List.range place.length).foldl
    (fun fs n =>
      let above := place.take (n + 1)
      match fs.node? above with
      | some _ => fs
      | none => fs.insert above .directory)
    fs

/-- Puts a file or directory at a location below the root and makes the directories that lead
there. -/
def place (fs : FileSystem) (location : Location) (node : Node) : FileSystem :=
  (fs.makeDirectories location.dropLast).insert location node

/-- The directories that hold the programs. -/
def programDirectories : List Location := [["usr".toList, "bin".toList], ["bin".toList]]

/-- The directories of the system that no programs stand in. -/
def systemDirectories : List String :=
  ["boot", "etc", "home", "lib", "lib64", "media", "mnt", "opt", "proc", "root", "run", "sbin", "srv",
    "sys", "tmp", "var"]

/-- The file system in which all others are set up: it has the directories of the system and the
null device. -/
def system : FileSystem :=
  let directories := programDirectories ++ systemDirectories.map fun name => [name.toList]
  let bare := directories.foldl makeDirectories {}
  bare.place ["dev".toList, "null".toList] .nullDevice

/-- Takes away what stands at a location, with all below it. -/
def removeTree (fs : FileSystem) (location : Location) : FileSystem :=
  { fs with
    nodes := fs.nodes.filter fun entry => !location.isPrefixOf entry.1
    adrift := fs.adrift || location.isPrefixOf fs.cwd }

end FileSystem

end ScriptBundle
