/-
# Running jobs

A job makes the bundle and the styles as texts.  Only when this has succeeded they are written: each
file is staged beside its target and then renamed over it, the styles before the bundle.

## Main content

- `Job.make` and `Job.makeWith` build without writing.
- `Job.write` writes a product and gives the files afterwards.
- `Job.run` does both.
-/
import ScriptBundle.Bundle.Printer
import ScriptBundle.FileSystem.Replace
import ScriptBundle.Job.Basic
import ScriptBundle.Linker
import ScriptBundle.Markup.Command

namespace ScriptBundle

/-- The product that a graph leads to. -/
def ModuleGraph.product (graph : ModuleGraph) : Product where
  entry := graph.entry
  moduleCount := graph.modules.length
  script := Bundle.text graph.modules graph.entry
  css := graph.styles.css

namespace Job

/-! ## Building -/

/-- Builds with the given compiler, or without one.  The answer has the files afterwards, which are
as before unless the compiler changes them. -/
def makeWith (job : Job) (fs : FileSystem) (compiler : Option Compiler) :
    Except BuildError Product × FileSystem :=
  let linker : Linker := { lookup := job.lookup fs, compiler }
  let (graph, files) := linker.graph fs job.root
  (graph.map ModuleGraph.product, files)

/-- The product of a job is that of the graph from its root. -/
theorem makeWith_eq_ok_iff {job : Job} {fs : FileSystem} {compiler : Option Compiler}
    {product : Product} :
    (job.makeWith fs compiler).1 = .ok product ↔
      ∃ g, (Linker.graph ⟨job.lookup fs, compiler⟩ fs job.root).1 = .ok g ∧ g.product = product := by
  have hmap : (job.makeWith fs compiler).1 =
      (Linker.graph ⟨job.lookup fs, compiler⟩ fs job.root).1.map ModuleGraph.product := rfl
  rw [hmap]
  cases (Linker.graph ⟨job.lookup fs, compiler⟩ fs job.root).1 <;> simp [Except.map]

/-- Builds, with the compiler program that the job names if templates are compiled. -/
def make (job : Job) (fs : FileSystem) : Except BuildError Product × FileSystem :=
  if job.compiling then
    match CompilerCommand.ofLine? job.compilerCommand with
    | some command => job.makeWith fs (some command.compiler)
    | none => (.error (.template job.root "empty template compiler command".toList), fs)
  else job.makeWith fs none

/-! ## Writing -/

/-- Replaces the content of a file, or leaves all files as they were. -/
def replaceFile (fs : FileSystem) (target : Path) (content : Text) :
    Except BuildError Unit × FileSystem :=
  match fs.stage target (Utf8.encode content) with
  | .error fault => (.error (.output target fault.text), fs)
  | .ok (temp, staged) =>
    match staged.rename temp target with
    | .error fault => (.error (.output target fault.text), staged.discard temp)
    | .ok renamed => (.ok (), renamed)

/-- Writes the styles, if the job says where. -/
def writeStyles (job : Job) (fs : FileSystem) (css : Text) : Except BuildError Unit × FileSystem :=
  match job.styleOutput with
  | some target => replaceFile fs target css
  | none => (.ok (), fs)

/-- Writes a product.  The bundle is staged first and renamed last, so that a failure with the
styles leaves an earlier bundle in place. -/
def write (job : Job) (fs : FileSystem) (product : Product) : Except BuildError Unit × FileSystem :=
  match fs.stage job.output (Utf8.encode product.script) with
  | .error fault => (.error (.output job.output fault.text), fs)
  | .ok (temp, staged) =>
    match job.writeStyles staged product.css with
    | (.error error, files) => (.error error, files.discard temp)
    | (.ok (), files) =>
      match files.rename temp job.output with
      | .error fault => (.error (.output job.output fault.text), files.discard temp)
      | .ok renamed => (.ok (), renamed)

/-- Builds and writes.  If the build fails, nothing is written. -/
def run (job : Job) (fs : FileSystem) : Except BuildError Product × FileSystem :=
  match job.make fs with
  | (.error error, files) => (.error error, files)
  | (.ok product, files) =>
    match job.write files product with
    | (.error error, files) => (.error error, files)
    | (.ok (), files) => (.ok product, files)

end Job

end ScriptBundle
