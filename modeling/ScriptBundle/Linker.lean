/-
# Linking modules

A build starts at a root file and follows the requires depth first, in the order of the text.  Every
file is read once; a module gets its number when all that it requires is complete.

## Main content

- `Build` is a step of a build: it changes the state, also when it ends with an error.
- `Linker.reach` gives the number of the module for a file, reading the file if it is new.
- `Linker.graph` is the graph of all modules that are reached from a root.
-/
import ScriptBundle.Lookup
import ScriptBundle.Markup.Compiler
import ScriptBundle.ModuleTable
import ScriptBundle.Source
import ScriptBundle.Stylesheet

namespace ScriptBundle

/-! ## Steps of a build -/

/-- The state of a build. -/
structure BuildState where
  /-- The files, which compilers may change. -/
  files : FileSystem
  /-- The complete modules. -/
  table : ModuleTable := {}
  /-- The files that are being read, the outermost first. -/
  inProgress : List Path := []
  /-- The styles found so far. -/
  styles : Stylesheet := []
  deriving DecidableEq

/-- A step of a build. -/
abbrev Build := ExceptT BuildError (StateM BuildState)

namespace Build

/-- A step that does not look at the state. -/
def ofExcept {α : Type} (result : Except BuildError α) : Build α := ExceptT.mk (pure result)

/-- Adds a complete module and gives its number. -/
def addModule (path : Path) (text : Text) (dependencies : Dependencies) : Build ModuleNumber := do
  let state ← get
  set { state with table := state.table.add path text dependencies }
  return state.table.nextNumber

/-- Adds the styles of a file. -/
def addStyles (file : Path) (styles : List Text) : Build Unit :=
  modify fun state => { state with styles := state.styles ++ Stylesheet.ofComponent file styles }

/-- The text of a file. -/
def readText (file : Path) : Build Text := do
  ofExcept (((← get).files.readText file).mapError (.unreadable file))

/-- Compiles the markup of a file. -/
def compile (compiler : Compiler) (file : Path) (markup : Text) : Build RenderFunctions := do
  let state ← get
  let (result, files) := (compiler markup).run.run state.files
  set { state with files }
  ofExcept (result.mapError fun fault => .template file fault.text)

/-- Does a step while a file counts as being read, however the step ends. -/
def during {α : Type} (path : Path) (step : Build α) : Build α := ExceptT.mk fun state =>
  let (result, after) := step.run.run { state with inProgress := state.inProgress ++ [path] }
  (result, { after with inProgress := after.inProgress.dropLast })

end Build

/-! ## Linkers -/

/-- What modules are linked with. -/
structure Linker where
  /-- How targets are looked up. -/
  lookup : Lookup := {}
  /-- The compiler of templates, if they are compiled. -/
  compiler : Option Compiler := none

/-- All modules that are reached from a root. -/
structure ModuleGraph where
  /-- The modules in the order of their numbers. -/
  modules : List Module
  /-- The number of the root's module. -/
  entry : ModuleNumber
  /-- The styles of all components. -/
  styles : Stylesheet
  deriving DecidableEq

/-- The module with a number. -/
def ModuleGraph.get? (graph : ModuleGraph) (number : ModuleNumber) : Option Module :=
  graph.modules.find? (·.number = number)

namespace Linker

/-! ## One part of a text -/

/-- The text of a linked part, and where its target leads. -/
structure Linked where
  /-- The text that goes into the module. -/
  text : Text
  /-- The target of the part with the number of its module. -/
  dependency : Option (Text × ModuleNumber) := none
  deriving DecidableEq

/-- The option text for a template in a file of its own.  Nothing but the path of the target counts
here: neither extensions nor index files are tried.  Without a compiler there is none. -/
def inlineText (l : Linker) (requester : Path) (target : Text) : Build Text := do
  match l.compiler with
  | none => return []
  | some compiler =>
    let file := (Lookup.targetPath requester target).folded
    let functions ← Build.compile compiler file (← Build.readText file)
    return functions.optionText

/-- Where a target leads when some modules are complete.  A complete module at the path as it is
written comes before all else. -/
def destination (l : Linker) (state : BuildState) (requester : Path) (target : Text) :
    Except BuildError Destination :=
  let sibling := (Lookup.targetPath requester target).folded
  if (state.table.find? sibling).isSome then .ok (.file sibling)
  else l.lookup.destination state.files requester target

/-- Links one part of a file, following a require by `reach`. -/
def linkPart (l : Linker) (reach : Path → Build ModuleNumber) (file : Path) : Part → Build Linked
  | .copy text => return { text }
  | .inline target => return { text := ← l.inlineText file target }
  | .follow call => do
    match ← Build.ofExcept (l.destination (← get) file call.target) with
    | .library _ => return { text := call.text }
    | .file path => return { text := call.text, dependency := some (call.target, ← reach path) }

/-! ## Whole files -/

/-- Adds the template of a component as a module of its own. -/
def addTemplate (component : Path) (markup : Text) : Build Unit :=
  discard (Build.addModule (Source.templatePath component) (Literal.exportText markup) [])

/-- What takes the place of a slot.  Without a compiler the template becomes a module, and the slot is
filled with a reference to it. -/
def fillSlot (l : Linker) (file : Path) : Option Text → Build (List Piece)
  | none => return []
  | some markup =>
    match l.compiler with
    | none => do
      addTemplate file markup
      return [.line (Source.templateReference file)]
    | some compiler => do
      let functions ← Build.compile compiler file markup
      return [.verbatim functions.optionText, .verbatim [',']]

/-- Links the spans of a file, in the order of the text. -/
def linkSpans (l : Linker) (reach : Path → Build ModuleNumber) (file : Path) (spans : List Span) :
    Build (Text × Dependencies) := do
  let linked ← (Part.ofSpans l.compiler.isSome spans).mapM (l.linkPart reach file)
  return (linked.flatMap Linked.text, Dependencies.ofList (linked.filterMap Linked.dependency))

/-- Links a file with the given text: first its styles are added, then its template is seen to, and
then its spans are linked. -/
def linkText (l : Linker) (reach : Path → Build ModuleNumber) (file : Path) (text : Text) :
    Build (Text × Dependencies) := do
  let reading := Source.read file text
  Build.addStyles file reading.styles
  let source ← Build.ofExcept reading.source
  let filling ← l.fillSlot file source.template
  l.linkSpans reach file (source.spans filling)

/-! ## Reaching files -/

/-- The circle that a path closes: the files being read from that path on, and the path again. -/
def circle (inProgress : List Path) (path : Path) : List Path :=
  inProgress.dropWhile (fun file => !file.same path) ++ [path]

/-- The number of the module for a file.  A complete module is taken as it is, a file that is being
read closes a circle, and any other file is read and linked. -/
def reachStep (l : Linker) (reach : Path → Build ModuleNumber) (path : Path) :
    Build ModuleNumber := do
  let state ← get
  match state.table.find? path with
  | some found => return found.number
  | none =>
    if state.inProgress.any (·.same path) then throw (.circular (circle state.inProgress path))
    let text ← Build.readText path
    let (text, dependencies) ← Build.during path (l.linkText reach path text)
    Build.addModule path text dependencies

/-- How deeply files can be read inside each other.  No file is read inside itself, and a path that
leads to a file has fewer bytes than `FileSystem.pathLimit`, so there are fewer paths than this. -/
def depthBound : Nat := Nat.pow 256 FileSystem.pathLimit

/-- Reaches a file with at most `depth` files inside each other. -/
def reachWithin (l : Linker) : Nat → Path → Build ModuleNumber
  | 0, _ => throw .tooDeep
  | depth + 1, path => l.reachStep (l.reachWithin depth) path

/-- The number of the module for a file, which is read if it is new. -/
def reach (l : Linker) (path : Path) : Build ModuleNumber := l.reachWithin depthBound path

/-- The graph of all modules that are reached from a root, and the files afterwards. -/
def graph (l : Linker) (files : FileSystem) (root : Path) :
    Except BuildError ModuleGraph × FileSystem :=
  match l.lookup.rootFile files root with
  | .error error => (.error error, files)
  | .ok path =>
    let (entry, state) := (l.reach path).run.run { files }
    (entry.map fun entry => ⟨state.table.modules, entry, state.styles⟩, state.files)

end Linker

end ScriptBundle
