/-
# Source files

What a file brings into a build before its requires are followed: style texts, the markup of a
template that becomes a module of its own, and the parts of its text.

## Main content

- `Source.read` reads the text of a file by its kind: markup, component or script.  The template of a
  component keeps its slot; `Source.spans` fills it.
- `Part.ofSpans` says what happens to each span: it is copied, followed to another module, or
  replaced by a compiled template.
-/
import ScriptBundle.BuildError
import ScriptBundle.Component.Reading
import ScriptBundle.Markup.Literal

namespace ScriptBundle

/-! ## Parts of a text -/

/-- What happens to a part of a source text. -/
inductive Part where
  /-- It is copied. -/
  | copy (text : Text)
  /-- It is copied, and the module that the call requires is added. -/
  | follow (call : Call)
  /-- The template in the file that the call requires is compiled and put in its place. -/
  | inline (target : Text)
  deriving DecidableEq

namespace Part

/-- The text in front of a call whose target is a template to be compiled in place. -/
def templateOption : Text := "template: ".toList

/-- The text without an ending, if it has it. -/
def before? (ending s : Text) : Option Text :=
  if ending.isSuffixOf s then some (s.take (s.length - ending.length)) else none

/-- A text has an ending exactly if it is something with the ending behind it. -/
theorem before?_eq_some_iff {ending s front : Text} :
    before? ending s = some front ↔ s = front ++ ending := by
  unfold before?
  rw [Option.ite_none_right_eq_some, List.isSuffixOf_iff_suffix]
  constructor
  · rintro ⟨⟨head, rfl⟩, h⟩
    simpa using h
  · rintro rfl
    exact ⟨List.suffix_append front ending, by simp⟩

/-- The parts of a text.  If templates are compiled, a call directly behind the words of a template
option is replaced together with them. -/
def ofSpans (compiling : Bool) : List Span → List Part
  | [] => []
  | .plain text :: .require call :: spans =>
    match if compiling then before? templateOption text else none with
    | some front => .copy front :: .inline call.target :: ofSpans compiling spans
    | none => .copy text :: .follow call :: ofSpans compiling spans
  | .plain text :: spans => .copy text :: ofSpans compiling spans
  | .require call :: spans => .follow call :: ofSpans compiling spans

end Part

/-! ## Kinds of files -/

/-- How the text of a file is read. -/
inductive FileKind where
  /-- As markup that a module exports as a string. -/
  | markup
  /-- As a component. -/
  | component
  /-- As a script. -/
  | script
  deriving DecidableEq

/-- The kind of a file, by its name. -/
def FileKind.ofPath (p : Path) : FileKind :=
  if p.hasExtension "html".toList then .markup
  else if Component.isComponent p then .component
  else .script

/-! ## Reading a file -/

/-- What is linked into the text of a module: pieces with a slot between them, in which a template
may belong. -/
structure Source where
  /-- The pieces in front of the slot. -/
  opening : List Piece
  /-- The markup that belongs in the slot. -/
  template : Option Text := none
  /-- The pieces behind the slot. -/
  closing : List Piece := []
  deriving DecidableEq

/-- What a file brings into a build.  The styles are also there when the rest is defective. -/
structure SourceReading where
  /-- The style texts of the file. -/
  styles : List Text
  /-- The text of the file. -/
  source : Except BuildError Source

namespace Source

/-- The spans of a source, with the given pieces in the slot. -/
def spans (source : Source) (filling : List Piece) : List Span :=
  Span.ofPieces (source.opening ++ filling ++ source.closing)

/-- The name of the module that holds the template of a component. -/
def templateName (component : Path) : Text :=
  component.fileName?.getD [] ++ ".template".toList

/-- The path of the module that holds the template of a component. -/
def templatePath (component : Path) : Path :=
  (component.directory.join ⟨templateName component⟩).folded

/-- The script line that refers to the module of a template. -/
def templateReference (component : Path) : Text :=
  Part.templateOption ++ "require('".toList ++ templateName component ++ "'),".toList

/-- The script of a component, which needs a template if it has a slot. -/
def ofComponent (file : Path) (component : Component) : Except BuildError Source :=
  let opening := component.script.takeWhile (· ≠ .slot)
  let closing := component.script.drop (opening.length + 1)
  if component.hasSlot then
    match component.template with
    | none => .error (.component file .missingTemplate)
    | some markup =>
      .ok ⟨opening.flatMap Component.Line.pieces, some markup,
        closing.flatMap Component.Line.pieces⟩
  else .ok { opening := opening.flatMap Component.Line.pieces }

/-- Reads the text of a component. -/
def readComponent (file : Path) (text : Text) : SourceReading :=
  let parts := Component.takeApart text
  { styles := parts.styles
    source :=
      match parts.rest with
      | .ok component => ofComponent file component
      | .error defect => .error (.component file defect) }

/-- Reads the text of a file.  Markup is exported as a string and not searched for calls. -/
def read (file : Path) (text : Text) : SourceReading :=
  match FileKind.ofPath file with
  | .markup => ⟨[], .ok { opening := [.verbatim (Literal.exportText text)] }⟩
  | .component => readComponent file text
  | .script => ⟨[], .ok { opening := (Text.lines text).map Piece.line }⟩

end Source

end ScriptBundle
