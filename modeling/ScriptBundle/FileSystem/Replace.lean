/-
# Replacing files

A file is replaced in two steps: its new content is staged in a temporary file in the same
directory, and the temporary file is then renamed over the target.  Until the rename the target is
as it was.

## Main content

- `stage` makes the temporary file, `rename` moves it, `discard` takes it away.
- The name of a temporary file has a slash in it, so that no path leads to it, and it is longer than
  all names in use (`node?_tempPlace`).
-/
import ScriptBundle.FileSystem.Basic

namespace ScriptBundle

namespace FileSystem

/-! ## Temporary files -/

/-- The length of the longest name in use. -/
def longestName (fs : FileSystem) : Nat :=
  fs.nodes.foldl (fun longest entry => max longest (entry.1.getLast?.getD []).length) 0

/-- The name of the next temporary file: more slashes than any name has characters. -/
def tempName (fs : FileSystem) : Text := List.replicate (fs.longestName + 1) '/'

/-- The place of the next temporary file in a directory. -/
def tempPlace (fs : FileSystem) (directory : Location) : Location := directory ++ [fs.tempName]

/-- No name in use is longer than the longest. -/
theorem length_le_longestName {fs : FileSystem} {entry : Location × Node} (h : entry ∈ fs.nodes) :
    (entry.1.getLast?.getD []).length ≤ fs.longestName := by
  suffices ∀ (nodes : List (Location × Node)) (least : Nat),
      least ≤ nodes.foldl (fun longest e => max longest (e.1.getLast?.getD []).length) least ∧
      (entry ∈ nodes → (entry.1.getLast?.getD []).length ≤
        nodes.foldl (fun longest e => max longest (e.1.getLast?.getD []).length) least) from
    (this fs.nodes 0).2 h
  intro nodes
  induction nodes with
  | nil => simp
  | cons head nodes ih =>
    intro least
    rw [List.foldl_cons]
    have step := ih (max least (head.1.getLast?.getD []).length)
    refine ⟨by omega, fun hmem => ?_⟩
    rcases List.mem_cons.1 hmem with rfl | hmem
    · omega
    · exact step.2 hmem

/-- Nothing stands yet at the place of the next temporary file. -/
theorem node?_tempPlace (fs : FileSystem) (directory : Location) :
    fs.node? (fs.tempPlace directory) = none := by
  have hne : fs.tempPlace directory ≠ [] := by simp [tempPlace]
  rw [node?, if_neg hne, List.lookup_eq_none_iff]
  intro entry hentry
  have hlength := length_le_longestName hentry
  rw [bne_iff_ne]
  intro heq
  rw [← heq] at hlength
  simp only [tempPlace, tempName, List.getLast?_append, List.getLast?_singleton, Option.some_or,
    Option.getD_some, List.length_replicate] at hlength
  omega

/-- The directory in which the new content of a file is staged. -/
def stageDirectory (target : Path) : Path :=
  match target.parent? with
  | some parent => if parent.text = [] then ⟨['.']⟩ else parent
  | none => ⟨['.']⟩

/-- How many bytes the name of a temporary file has for the system. -/
def tempNameSize : Nat := 10

/-- How long the path of a temporary file in a directory is.  It is spelled from the root. -/
def tempPathSize (fs : FileSystem) (directory : Path) : Nat :=
  let above := fs.cwd.foldl (fun n name => n + Utf8.size name + 1) 1
  (if directory.isAbsolute then 0 else above) + Utf8.size directory.text + 1 + tempNameSize

/-- The directory in which a temporary file is made. -/
def tempDirectory (fs : FileSystem) (directory : Path) : Except IoFault Location :=
  if fs.adrift ∧ !directory.isAbsolute then .error .notFound
  else if '\x00' ∈ directory.text then .error .zeroInPath
  else if pathLimit ≤ fs.tempPathSize directory then .error .nameTooLong
  else fs.locate directory

/-- Writes the new content of a file to a temporary file beside it.  The answer has the place of the
temporary file. -/
def stage (fs : FileSystem) (target : Path) (content : Bytes) :
    Except IoFault (Location × FileSystem) := do
  let directory ← fs.tempDirectory (stageDirectory target)
  match fs.node? directory with
  | none => .error .notFound
  | some (.file _) | some .nullDevice => .error .notDirectory
  | some .directory =>
    let temp := fs.tempPlace directory
    .ok (temp, fs.insert temp (.file content))

/-- Takes a temporary file away. -/
def discard (fs : FileSystem) (temp : Location) : FileSystem := fs.erase temp

/-! ## Renaming -/

/-- The location that a file is renamed to.  The path must end with a name, without a slash behind
it, in a directory that exists, and no directory may stand there. -/
def renameTarget (fs : FileSystem) (target : Path) : Except IoFault Location := do
  if '\x00' ∈ target.text then .error .invalid
  checkPath target
  let slashes := target.text.reverse.takeWhile (· = '/')
  let kept : Path := ⟨(target.text.reverse.drop slashes.length).reverse⟩
  match kept.pieces.getLast? with
  | none | some [] => .error .busy
  | some name =>
    let directory ← fs.follow target kept.pieces.dropLast
    let place ← fs.enter directory name
    if name = ['.'] ∨ name = ['.', '.'] then .error .busy
    else if slashes ≠ [] then .error .notDirectory
    else
      match fs.node? place with
      | some .directory => .error .isDirectory
      | _ => .ok place

/-- Renames a temporary file over the target. -/
def rename (fs : FileSystem) (temp : Location) (target : Path) : Except IoFault FileSystem := do
  let place ← fs.renameTarget target
  match fs.node? temp with
  | some node => .ok ((fs.erase temp).insert place node)
  | none => .error .notFound

end FileSystem

end ScriptBundle
