/-
# Changing files

The changes that programs make: files and directories come, grow, move and go.

## Main content

- `slot` is the location that a path names, whether or not something stands there.
- `openForWriting` and `writeAt` fill a file; `makeDirectory`, `removeFile`, `removeDirectory` and
  `move` change the entries of directories.
-/
import ScriptBundle.FileSystem.Basic

namespace ScriptBundle

namespace FileSystem

/-- The location that the last name of a path has in its directory, and whether a slash stands
behind the name. -/
def slot (fs : FileSystem) (p : Path) : Except IoFault (Location × Bool) := do
  checkPath p
  let slashes := p.text.reverse.takeWhile (· = '/')
  let kept : Path := ⟨(p.text.reverse.drop slashes.length).reverse⟩
  let directory ← fs.follow p kept.pieces.dropLast
  let place ← fs.enter directory (kept.pieces.getLast?.getD [])
  .ok (place, slashes ≠ [])

/-- Opens a file for writing.  Where none stands, an empty one is made. -/
def openForWriting (fs : FileSystem) (p : Path) (emptied : Bool) :
    Except IoFault (Location × FileSystem) := do
  let (place, slash) ← fs.slot p
  match fs.node? place with
  | some .directory => .error .isDirectory
  | some (.file _) =>
    if slash then .error .notDirectory
    else .ok (place, if emptied then fs.insert place (.file []) else fs)
  | some .nullDevice => if slash then .error .notDirectory else .ok (place, fs)
  | none => if slash then .error .isDirectory else .ok (place, fs.insert place (.file []))

/-- The bytes of the file at a location. -/
def bytesAt (fs : FileSystem) (place : Location) : Bytes :=
  match fs.node? place with
  | some (.file content) => content
  | _ => []

/-- Writes bytes over the content of a file from a position on.  A gap is filled with zeros.  A file
that was taken away keeps nothing. -/
def writeAt (fs : FileSystem) (place : Location) (position : Nat) (bytes : Bytes) : FileSystem :=
  match fs.node? place with
  | some (.file content) =>
    let front := content.take position
    let gap := List.replicate (position - content.length) 0
    fs.insert place (.file (front ++ gap ++ bytes ++ content.drop (position + bytes.length)))
  | _ => fs

/-- Makes a directory. -/
def makeDirectory (fs : FileSystem) (p : Path) : Except IoFault FileSystem := do
  let (place, _) ← fs.slot p
  match fs.node? place with
  | some _ => .error .alreadyThere
  | none => .ok (fs.insert place .directory)

/-- Takes a file away. -/
def removeFile (fs : FileSystem) (p : Path) : Except IoFault FileSystem := do
  let (place, slash) ← fs.slot p
  match fs.node? place with
  | some .directory => .error .isDirectory
  | some (.file _) => if slash then .error .notDirectory else .ok (fs.erase place)
  | some .nullDevice => .error .denied
  | none => .error .notFound

/-- Takes an empty directory away. -/
def removeDirectory (fs : FileSystem) (p : Path) : Except IoFault FileSystem := do
  let (place, _) ← fs.slot p
  match fs.node? place with
  | some .directory =>
    if p.fileName? = none ∨ place = [] then .error .invalid
    else if fs.entries place ≠ [] then .error .notEmpty
    else .ok (fs.removeTree place)
  | some _ => .error .notDirectory
  | none => .error .notFound

/-- The location that an entry has after another one was moved. -/
def movedPlace (source target place : Location) : Location :=
  if source.isPrefixOf place then target ++ place.drop source.length else place

/-- Moves an entry with all below it.  A file takes the place of a file, and a directory that of an
empty directory. -/
def move (fs : FileSystem) (source target : Path) : Except IoFault FileSystem := do
  let (old, _) ← fs.slot source
  let (new, slash) ← fs.slot target
  match fs.node? old, fs.node? new with
  | none, _ => .error .notFound
  | some .directory, some .directory =>
    if old = new then .ok fs
    else if old.isPrefixOf new then .error .invalid
    else if fs.entries new ≠ [] then .error .notEmpty
    else .ok (relocate old new (fs.erase new))
  | some .directory, some _ => .error .notDirectory
  | some .directory, none =>
    if old.isPrefixOf new then .error .invalid else .ok (relocate old new fs)
  | some _, some .directory => .error .isDirectory
  | some _, _ =>
    if old = new then .ok fs
    else if slash then .error .notDirectory
    else .ok (relocate old new (fs.erase new))
where
  /-- Gives new locations to an entry and all below it. -/
  relocate (old new : Location) (fs : FileSystem) : FileSystem :=
    { fs with
      nodes := fs.nodes.map fun (place, node) => (movedPlace old new place, node)
      cwd := movedPlace old new fs.cwd }

end FileSystem

end ScriptBundle
