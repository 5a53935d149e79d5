/-
# Paths

A path is a text whose pieces are separated by slashes.  Two paths name the same file in a build
when they have the same components: doubled slashes, slashes at the end and inner `.` pieces do not
count, while a `.` at the very start does.

## Main content

- `components` is the view of a path by which paths are compared (`same`).
- `folded` folds `.` and `..` without looking at any file.
- `join`, `parent?`, `fileName?` take paths apart and put them together.
- `walk` says where a path leads from a given directory; it is what `folded` keeps.
-/
import ScriptBundle.Text.Basic

namespace ScriptBundle

/-- A path as it is written. -/
structure Path where
  /-- The text of the path. -/
  text : Text
  deriving DecidableEq, Inhabited

namespace Path

/-! ## Components -/

/-- One step of a path. -/
inductive Component where
  /-- The slash at the start of an absolute path. -/
  | root
  /-- A `.` at the start of a path. -/
  | current
  /-- A `..`. -/
  | parent
  /-- A named entry. -/
  | name (text : Text)
  deriving DecidableEq

/-- The text of a component. -/
def Component.text : Component → Text
  | .root => ['/']
  | .current => ['.']
  | .parent => ['.', '.']
  | .name text => text

/-- Whether a path starts at the root. -/
def isAbsolute (p : Path) : Bool := p.text.head? = some '/'

/-- The pieces of a path between its slashes. -/
def pieces (p : Path) : List Text := Text.splitWith (· = '/') p.text

/-- The component that an inner piece stands for; empty pieces and `.` stand for none. -/
def ofPiece? (piece : Text) : Option Component :=
  if piece = [] ∨ piece = ['.'] then none
  else if piece = ['.', '.'] then some .parent
  else some (.name piece)

/-- The component that the very start of a path adds: the root, or a leading `.`. -/
def leading (p : Path) : List Component :=
  if p.isAbsolute then [.root]
  else if p.pieces.head? = some ['.'] then [.current]
  else []

/-- The components of a path. -/
def components (p : Path) : List Component := p.leading ++ p.pieces.filterMap ofPiece?

/-- Whether two paths have the same components. -/
def same (p q : Path) : Bool := p.components = q.components

@[simp] theorem same_refl (p : Path) : p.same p = true := by simp [same]

/-- Being the same is equality of components. -/
theorem same_iff {p q : Path} : p.same q = true ↔ p.components = q.components := by simp [same]

/-- The path with the given components. -/
def ofComponents : List Component → Path
  | .root :: rest => ⟨'/' :: Text.join ['/'] (rest.map Component.text)⟩
  | components => ⟨Text.join ['/'] (components.map Component.text)⟩

/-! ## Folding -/

/-- Adds a component to a folded path, which is kept with its last component first.  A `..` takes
away the name before it, is dropped at the root, and stays where nothing is known. -/
def foldStep (folded : List Component) : Component → List Component
  | .current => folded
  | .parent =>
    match folded with
    | .name _ :: rest => rest
    | .root :: rest => .root :: rest
    | folded => .parent :: folded
  | component => component :: folded

/-- The components of a path with `.` and `..` folded away. -/
def foldedComponents (p : Path) : List Component := (p.components.foldl foldStep []).reverse

/-- The path with `.` and `..` folded away.  A path that folds to nothing is `.`. -/
def folded (p : Path) : Path :=
  match p.foldedComponents with
  | [] => ⟨['.']⟩
  | components => ofComponents components

/-- Where a path leads from a directory.  A directory is the list of names that lead to it from the
root, the last one first. -/
def walk (directory : List Text) (p : Path) : List Text :=
  p.components.foldl
    (fun place component =>
      match component with
      | .root => []
      | .current => place
      | .parent => place.tail
      | .name text => text :: place)
    directory

/-! ## Joining and taking apart -/

/-- The path `other` as seen from the directory `base`. -/
def join (base other : Path) : Path :=
  if other.isAbsolute then other
  else if base.text = [] ∨ base.text.getLast? = some '/' then ⟨base.text ++ other.text⟩
  else ⟨base.text ++ '/' :: other.text⟩

/-- Drops pieces that stand for no component from the end of a list of pieces. -/
def dropIdle (pieces : List Text) : List Text :=
  (pieces.reverse.dropWhile fun piece => (ofPiece? piece).isNone).reverse

/-- The pieces of a path behind its leading component. -/
def body (p : Path) : List Text := if p.leading = [] then p.pieces else p.pieces.tail

/-- The path without its last component, or `none` for the root and the empty path.  What is left
keeps its spelling, apart from slashes and `.` pieces at its end. -/
def parent? (p : Path) : Option Path :=
  let remaining := dropIdle (dropIdle p.body).dropLast
  match p.leading, dropIdle p.body with
  | [.root], [] => none
  | [.root], _ => some ⟨'/' :: Text.join ['/'] remaining⟩
  | [.current], [] => some ⟨[]⟩
  | [.current], _ => some ⟨Text.join ['/'] (['.'] :: remaining)⟩
  | _, [] => none
  | _, _ => some ⟨Text.join ['/'] remaining⟩

/-- The directory against which the requires of a file are resolved: its parent, or the working
directory where there is none. -/
def directory (p : Path) : Path := p.parent?.getD ⟨[]⟩

/-- The name at the end of a path. -/
def fileName? (p : Path) : Option Text :=
  match p.components.getLast? with
  | some (.name text) => some text
  | _ => none

/-- The part of a file name before its first dot; a name that starts with a dot is kept whole. -/
def stem (name : Text) : Text :=
  if name.head? = some '.' then name else name.takeWhile (· ≠ '.')

/-- Whether the file name has the extension: something, a dot and the extension. -/
def hasExtension (extension : Text) (p : Path) : Bool :=
  match p.fileName? with
  | some name =>
    let ending := '.' :: extension
    ending.isSuffixOf name && ending.length < name.length && !extension.contains '.'
  | none => false

/-- Whether the file name ends with the given text. -/
def nameEndsWith (ending : Text) (p : Path) : Bool :=
  match p.fileName? with
  | some name => ending.isSuffixOf name
  | none => false

end Path

end ScriptBundle
