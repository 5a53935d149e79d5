/-
# The program

Loads the files around the working directory, carries out what the arguments ask for, and writes the
files that have changed.

## Main content

- `main` is the program.  It sees what stands below the working directory, or below the directory
  that the arguments climb to.
-/
import ScriptBundle.CommandLine

namespace ScriptBundle

namespace Disk

/-- How deep directories are looked into. -/
def depthLimit : Nat := 64

/-- The names on a path of the disk. -/
def locationOf (path : String) : Location :=
  (Text.splitWith (· = '/') path.toList).filter (· ≠ [])

/-- The path of a location on the disk. -/
def pathOf (place : Location) : String :=
  String.ofList ('/' :: Text.join ['/'] place)

/-- The entries below a directory of the disk.  What cannot be read is left out. -/
def load : Nat → Location → IO (List (Location × Node))
  | 0, _ => return []
  | depth + 1, place => do
    let mut nodes := []
    for entry in ← (← IO.FS.realPath (pathOf place)).readDir do
      let inner := place ++ [entry.fileName.toList]
      if ← entry.path.isDir then
        nodes := (inner, .directory) :: (← load depth inner) ++ nodes
      else
        try
          let content ← IO.FS.readBinFile entry.path
          nodes := (inner, .file content.toList) :: nodes
        catch _ => pure ()
    return nodes

/-- Replaces a file of the disk. -/
def replace (place : Location) (content : Bytes) : IO Unit := do
  let target := pathOf place
  let temporary := target ++ ".new"
  IO.FS.writeBinFile temporary (ByteArray.mk content.toArray)
  IO.FS.rename temporary target

end Disk

end ScriptBundle

open ScriptBundle in
/-- The program. -/
def main (arguments : List String) : IO UInt32 := do
  let arguments := arguments.map String.toList
  let cwd := Disk.locationOf (← IO.currentDir).toString
  let top := cwd.take (cwd.length - CommandLine.climbOf arguments)
  let above := FileSystem.makeDirectories {} top
  let before : FileSystem := { nodes := (← Disk.load Disk.depthLimit top) ++ above.nodes, cwd }
  let (outcome, after) := CommandLine.execute before arguments
  for (place, content) in CommandLine.changedFiles before after do
    Disk.replace place content
  IO.print (String.ofList outcome.stdout)
  if let some failure := outcome.failure then
    IO.eprintln ("Bundling failed: " ++ String.ofList failure)
  if let some usage := outcome.usage then
    IO.eprintln ("error: " ++ String.ofList usage)
  return UInt32.ofNat outcome.exitCode
