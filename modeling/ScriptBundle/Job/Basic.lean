/-
# Jobs

A job says what is built, with what, and where the results go.

## Main content

- `Job` with its defaults; `Job.addLibrary` adds the name of a vendor library.
- `Product` is what a job makes.
-/
import ScriptBundle.Lookup
import ScriptBundle.ModuleTable

namespace ScriptBundle

/-- The command line of the compiler that is run when none is given. -/
def defaultCompilerCommand : Text := "node template-compiler.js".toList

/-- What is built and how. -/
structure Job where
  /-- The file or directory where the build starts. -/
  root : Path
  /-- The file that the bundle is written to. -/
  output : Path
  /-- The directories whose entries name vendor libraries. -/
  libraryDirs : List Path := defaultLibraryDirs
  /-- The names of more vendor libraries, distinct and in ascending order. -/
  libraries : List Text := []
  /-- Whether templates are compiled. -/
  compiling : Bool := false
  /-- The command line of the compiler. -/
  compilerCommand : Text := defaultCompilerCommand
  /-- The file that the styles are written to, if any. -/
  styleOutput : Option Path := none
  /-- The extensions that are tried for targets. -/
  extensions : List Text := ["js".toList]
  deriving DecidableEq

/-- What a job makes. -/
structure Product where
  /-- The number of the root's module. -/
  entry : ModuleNumber
  /-- How many modules there are. -/
  moduleCount : Nat
  /-- The text of the bundle. -/
  script : Text
  /-- The text of all styles. -/
  css : Text
  deriving DecidableEq

namespace Job

/-- Adds the name of a vendor library. -/
def addLibrary (job : Job) (name : Text) : Job :=
  { job with libraries := Text.insertName name job.libraries }

/-- How the job looks targets up: with the vendor libraries that it names and those found in its
directories. -/
def lookup (job : Job) (fs : FileSystem) : Lookup where
  libraries := libraryNames fs job.libraryDirs ++ job.libraries
  extensions := job.extensions

end Job

end ScriptBundle
