/-
# Looking targets up

A target is the text inside a require call.  It leads to the file that is read next, or to a vendor
library, which is loaded by the page and never bundled.

## Main content

- `Lookup.file?` finds the file for a path: a directory stands for its index file, and a path that
  is no file as written is tried with the known extensions.  `Lookup.file?_cases` lists the paths
  that can be found.
- `Lookup.destination` says where a target leads from the file that requires it, `Lookup.rootFile`
  where a build starts.
- `libraryNames` collects the names of vendor libraries from directories.
-/
import ScriptBundle.BuildError
import ScriptBundle.FileSystem.Basic

namespace ScriptBundle

/-- What targets are looked up with. -/
structure Lookup where
  /-- The names of vendor libraries. -/
  libraries : List Text := []
  /-- The extensions that are tried, in this order. -/
  extensions : List Text := ["js".toList]
  deriving DecidableEq

/-- Where a target leads. -/
inductive Destination where
  /-- To a file. -/
  | file (path : Path)
  /-- To a vendor library, given by the target. -/
  | library (target : Text)
  deriving DecidableEq

namespace Lookup

/-! ## Files -/

/-- The file that stands for a directory. -/
def indexFile : Path := ⟨"index.js".toList⟩

/-- The path with an extension behind its text. -/
def withExtension (p : Path) (extension : Text) : Path := ⟨p.text ++ '.' :: extension⟩

/-- The file that a folded path leads to. -/
def foldedFile? (l : Lookup) (fs : FileSystem) (p : Path) : Option Path :=
  if fs.isDirectory p then
    if fs.isFile (p.join indexFile) then some (p.join indexFile) else none
  else if fs.isFile p then some p
  else (l.extensions.map (withExtension p)).find? fs.isFile

/-- The file that a path leads to. -/
def file? (l : Lookup) (fs : FileSystem) (p : Path) : Option Path := l.foldedFile? fs p.folded

/-- What is found is the index file in a directory, the path itself, or the path with one of the
extensions. -/
theorem file?_cases {l : Lookup} {fs : FileSystem} {p file : Path}
    (h : l.file? fs p = some file) :
    fs.isFile file ∧ (file = p.folded.join indexFile ∨ file = p.folded ∨
      ∃ extension ∈ l.extensions, file = withExtension p.folded extension) := by
  unfold file? foldedFile? at h
  split at h
  · rw [Option.ite_none_right_eq_some] at h
    obtain ⟨hfile, h⟩ := h
    obtain rfl := Option.some.inj h
    exact ⟨hfile, .inl rfl⟩
  · split at h
    · next hfile =>
      obtain rfl := Option.some.inj h
      exact ⟨hfile, .inr (.inl rfl)⟩
    · obtain ⟨extension, hmem, rfl⟩ := List.mem_map.1 (List.mem_of_find?_eq_some h)
      exact ⟨List.find?_some h, .inr (.inr ⟨extension, hmem, rfl⟩)⟩

/-- What is found is a file. -/
theorem isFile_of_file? {l : Lookup} {fs : FileSystem} {p file : Path}
    (h : l.file? fs p = some file) : fs.isFile file := (file?_cases h).1

/-! ## Targets -/

/-- Whether a target names a vendor library: the part of its file name before the first dot is the
name of one. -/
def namesLibrary (l : Lookup) (target : Text) : Bool :=
  match Path.fileName? ⟨target⟩ with
  | some name => l.libraries.contains (Path.stem name)
  | none => false

/-- The path of a target as seen from the file that requires it. -/
def targetPath (requester : Path) (target : Text) : Path := requester.directory.join ⟨target⟩

/-- Where a target leads.  Vendor libraries come first, whatever files there are. -/
def destination (l : Lookup) (fs : FileSystem) (requester : Path) (target : Text) :
    Except BuildError Destination :=
  if l.namesLibrary target then .ok (.library target)
  else
    match l.file? fs (targetPath requester target) with
    | some file => .ok (.file file)
    | none => .error (.unresolved target requester)

/-- A target leads to a file if it names no vendor library and the file stands at its path. -/
theorem destination_eq_file_iff {l : Lookup} {fs : FileSystem} {requester file : Path}
    {target : Text} :
    l.destination fs requester target = .ok (.file file) ↔
      l.namesLibrary target = false ∧ l.file? fs (targetPath requester target) = some file := by
  unfold destination
  cases l.namesLibrary target with
  | true => simp
  | false => cases l.file? fs (targetPath requester target) <;> simp

/-- The file where a build starts. -/
def rootFile (l : Lookup) (fs : FileSystem) (root : Path) : Except BuildError Path :=
  match l.file? fs root with
  | some file => .ok file
  | none => .error (.unresolved root.text root)

end Lookup

/-! ## Vendor libraries -/

/-- The directories that hold vendor libraries when none are given. -/
def defaultLibraryDirs : List Path :=
  [⟨"vendor/dev".toList⟩, ⟨"vendor/min".toList⟩, ⟨"vendor/common".toList⟩]

/-- The names of the vendor libraries in some directories: the parts of the entries' names before
the first dot.  What is no directory holds none. -/
def libraryNames (fs : FileSystem) (dirs : List Path) : List Text :=
  Text.nameSet (dirs.flatMap fun dir => ((fs.list? dir).getD []).map Path.stem)

end ScriptBundle
