/-
# Reading components

A component is read line by line.  The template has to come before the script line that opens the
exported object, because that is where it is put into the script.

## Main content

- `Component.takeApart` takes a component apart: its style texts, its template and its script lines,
  with a slot behind the line that opens the exported object.
- `Draft.step` is what one line does; `Draft.read` goes through the lines and stops at the first
  defect, keeping the styles found before it.
-/
import ScriptBundle.Component.Basic

namespace ScriptBundle

namespace Component

/-- Where in the file a line stands. -/
inductive Region where
  /-- Outside of all blocks. -/
  | outside
  /-- Between the script tags. -/
  | script
  deriving DecidableEq

/-- The body of a block that is not closed yet, its last line first. -/
inductive OpenBlock where
  /-- A style block. -/
  | style (body : List Text)
  /-- A template at a nesting depth. -/
  | template (depth : Nat) (body : List Text)
  deriving DecidableEq

/-- The block that is open. -/
def OpenBlock.block : OpenBlock → Block
  | .style _ => .style
  | .template _ _ => .template

/-- A component in the course of reading. -/
structure Draft where
  /-- The style texts, the last one first. -/
  styles : List Text := []
  /-- The last template. -/
  template : Option Text := none
  /-- The script lines, the last one first. -/
  script : List Line := []
  /-- The region outside of style and template blocks. -/
  region : Region := .outside
  /-- The style or template block that is open. -/
  pending : Option OpenBlock := none
  /-- Whether the script has its slot. -/
  slotted : Bool := false
  deriving DecidableEq

/-- A component taken apart.  The styles are also there when the rest is defective. -/
structure Parts where
  /-- The style texts in file order, up to the first defect. -/
  styles : List Text
  /-- The template and the script. -/
  rest : Except Defect Component

namespace Draft

/-! ## One line -/

/-- The text of a block's body. -/
def bodyText (body : List Text) : Text := body.reverse.flatten

/-- A script line; the line that opens the exported object is followed by the slot. -/
def scriptStep (d : Draft) (line : Text) : Except Defect Draft :=
  if !d.slotted && opensExport (Text.trim line) then
    match d.template with
    | none => .error .missingTemplate
    | some _ => .ok { d with script := .slot :: .code line :: d.script, slotted := true }
  else .ok { d with script := .code line :: d.script }

/-- A line outside of style and template blocks.  An opening tag counts wherever it stands. -/
def tagStep (d : Draft) (line : Text) : Except Defect Draft :=
  let trimmed := Text.trim line
  if (openTag Block.style.tag).isPrefixOf trimmed then
    if Text.occurs "scoped".toList trimmed then .error .scopedStyle
    else .ok { d with pending := some (.style []) }
  else if (openTag Block.template.tag).isPrefixOf trimmed then
    .ok { d with pending := some (.template 1 []) }
  else if (openTag scriptTag).isPrefixOf trimmed then .ok { d with region := .script }
  else if trimmed = closeTag scriptTag then .ok { d with region := .outside }
  else if d.region = .script then d.scriptStep line
  else .ok d

/-- What one line does. -/
def step (d : Draft) (line : Text) : Except Defect Draft :=
  match d.pending with
  | none => d.tagStep line
  | some (.style body) =>
    if Text.trim line = closeTag Block.style.tag then
      .ok { d with styles := bodyText body :: d.styles, pending := none }
    else .ok { d with pending := some (.style (Text.withNewline line :: body)) }
  | some (.template depth body) =>
    if Text.trim line = closeTag Block.template.tag ∧ depth = 1 then
      .ok { d with template := some (bodyText body), pending := none }
    else
      .ok { d with
        pending := some (.template (depthAfter depth line) (Text.withNewline line :: body)) }

/-! ## All lines -/

/-- What the draft comes to at the end of the file. -/
def finish (d : Draft) : Parts where
  styles := d.styles.reverse
  rest :=
    match d.pending with
    | some opened => .error (.unterminated opened.block)
    | none => .ok ⟨d.template, d.script.reverse⟩

/-- Goes through the lines up to the first defect. -/
def read (d : Draft) : List Text → Parts
  | [] => d.finish
  | line :: lines =>
    match d.step line with
    | .ok next => next.read lines
    | .error defect => ⟨d.styles.reverse, .error defect⟩

@[simp] theorem read_nil (d : Draft) : d.read [] = d.finish := rfl

/-- A line without a defect only changes the draft. -/
theorem read_cons_of_ok {d next : Draft} {line : Text} (h : d.step line = .ok next)
    (lines : List Text) : d.read (line :: lines) = next.read lines := by
  rw [read]
  simp only [h]

/-- The first defect ends the reading. -/
theorem read_cons_of_error {d : Draft} {line : Text} {defect : Defect}
    (h : d.step line = .error defect) (lines : List Text) :
    d.read (line :: lines) = ⟨d.styles.reverse, .error defect⟩ := by
  rw [read]
  simp only [h]

end Draft

/-- Takes the text of a component apart. -/
def takeApart (text : Text) : Parts := Draft.read {} (Text.lines text)

end Component

end ScriptBundle
