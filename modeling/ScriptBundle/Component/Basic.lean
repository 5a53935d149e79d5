/-
# Single-file components

A component file holds blocks, each opened and closed by a tag on a line of its own: style blocks, a
template, and a script.  This file says what a component is and how its lines are recognized.

## Main content

- `Component` is the template of a component with the lines of its script.
- `Defect` lists what can be wrong with a component.
- `opensExport` recognizes the line behind which the template is put, and `depthAfter` counts
  template tags inside a template.
-/
import ScriptBundle.Path
import ScriptBundle.Require.Span

namespace ScriptBundle

namespace Component

/-- A line of the script of a component. -/
inductive Line where
  /-- A line as it is written. -/
  | code (text : Text)
  /-- The place where the template belongs. -/
  | slot
  deriving DecidableEq

/-- The blocks whose body is collected up to their closing tag. -/
inductive Block where
  /-- A style block. -/
  | style
  /-- A template. -/
  | template
  deriving DecidableEq

/-- The name in the tags of a block. -/
def Block.tag : Block → Text
  | .style => "style".toList
  | .template => "template".toList

/-- What can be wrong with a component. -/
inductive Defect where
  /-- A style block asks to be scoped. -/
  | scopedStyle
  /-- The exported object is opened before any template. -/
  | missingTemplate
  /-- The file ends inside a block. -/
  | unterminated (block : Block)
  deriving DecidableEq

end Component

/-- A component without its styles. -/
structure Component where
  /-- The lines between the template tags. -/
  template : Option Text
  /-- The lines between the script tags. -/
  script : List Component.Line
  deriving DecidableEq

namespace Component

/-! ## Recognizing files and lines -/

/-- The ending of a component's file name. -/
def fileEnding : Text := ".vue".toList

/-- Whether a path names a component. -/
def isComponent (p : Path) : Bool := p.nameEndsWith fileEnding

/-- How an opening tag begins. -/
def openTag (tag : Text) : Text := '<' :: tag

/-- A closing tag. -/
def closeTag (tag : Text) : Text := ['<', '/'] ++ tag ++ ['>']

/-- The name in the tags around a script. -/
def scriptTag : Text := "script".toList

/-- Whether a line, without the blanks around it, opens the exported object.  An export that
requires something is none. -/
def opensExport (trimmed : Text) : Bool :=
  "module.exports".toList.isPrefixOf trimmed && trimmed.getLast? = some '{' &&
    !containsCall trimmed

/-- The nesting depth of template tags behind a line.  It never falls below one. -/
def depthAfter (depth : Nat) (line : Text) : Nat :=
  max 1 (depth + Text.occurrences (openTag Block.template.tag) line -
    Text.occurrences (closeTag Block.template.tag) line)

/-- Inside a template the depth is at least one. -/
theorem one_le_depthAfter (depth : Nat) (line : Text) : 1 ≤ depthAfter depth line :=
  Nat.le_max_left ..

/-! ## The script with its template -/

/-- Whether the script has a slot. -/
def hasSlot (component : Component) : Bool := component.script.contains .slot

/-- The pieces that a line of the script is read as.  The slot has none of its own. -/
def Line.pieces : Line → List Piece
  | .code text => [.line text]
  | .slot => []

end Component

end ScriptBundle
