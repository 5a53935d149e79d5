/-
# Fields

What the words of a command stand for is cut into fields: values that are not quoted are cut at the
characters that separate fields, and fields with wildcards stand for the names of files.

## Main content

- `Glyph` is a part of what a word stands for; `Glyph.text` is its text, and `Glyph.form` its form.
- `Field.ofGlyphs` cuts it into fields; `Field.names` lists the files that a field stands for.
- `Field.spread` cuts a line into values for a number of variables.
-/
import ScriptBundle.Pattern.Wildcard
import ScriptBundle.Process.Task

namespace ScriptBundle

namespace Shell

/-- A part of what a word stands for. -/
inductive Glyph where
  /-- A character. -/
  | char (c : Char) (isQuoted : Bool)
  /-- Quotes.  They make a field also where nothing stands between them. -/
  | mark
  /-- A value that is cut into fields. -/
  | value (s : Text)
  /-- The end of a field, where one has begun. -/
  | gap
  /-- The end of a field. -/
  | cut

namespace Glyph

/-- The glyphs of a text. -/
def ofText (isQuoted : Bool) (s : Text) : List Glyph := s.map fun c => .char c isQuoted

/-- The text of some glyphs. -/
def text (glyphs : List Glyph) : Text :=
  glyphs.flatMap fun glyph =>
    match glyph with
    | .char c _ => [c]
    | .value s => s
    | _ => []

/-- The wildcard that some glyphs make up. -/
def form (glyphs : List Glyph) : Text :=
  glyphs.flatMap fun glyph =>
    match glyph with
    | .char c isQuoted => if isQuoted then ['\\', c] else [c]
    | .value s => s
    | _ => []

end Glyph

namespace Field

/-- A field in progress. -/
structure Draft where
  /-- The fields that are complete, the last one first. -/
  found : List (List Glyph) := []
  /-- The characters of the field, the last one first. -/
  chars : List Glyph := []
  /-- Whether the field has begun. -/
  hasBegun : Bool := false

namespace Draft

/-- Ends the field. -/
def finish (d : Draft) : Draft := { found := d.chars.reverse :: d.found }

/-- Adds to the field. -/
def add (d : Draft) (glyph : Glyph) : Draft := { d with chars := glyph :: d.chars, hasBegun := true }

/-- Skips what separates two fields.  Next to blanks there may be one other separator. -/
def skip (separators : Text) (afterBlank : Bool) : Text → Text
  | [] => []
  | c :: s =>
    if !separators.contains c then c :: s
    else if " \t\n".toList.contains c then skip separators afterBlank s
    else if afterBlank then skip separators false s
    else c :: s

/-- Skipping does not make a text longer. -/
theorem length_skip_le (separators : Text) (afterBlank : Bool) (s : Text) :
    (skip separators afterBlank s).length ≤ s.length := by
  induction s generalizing afterBlank with
  | nil => simp [skip]
  | cons c s ih =>
    unfold skip
    split
    · exact Nat.le_refl _
    · split
      · exact Nat.le_succ_of_le (ih _)
      · split
        · exact Nat.le_succ_of_le (ih _)
        · exact Nat.le_refl _

/-- Adds a value and cuts it at the characters that separate fields. -/
def addValue (separators : Text) (d : Draft) (s : Text) : Draft :=
  match s with
  | [] => d
  | c :: s =>
    if separators.contains c then
      let isBlank := " \t\n".toList.contains c
      if isBlank ∧ !d.hasBegun then addValue separators d s
      else addValue separators d.finish (skip separators isBlank s)
    else addValue separators (d.add (.char c false)) s
termination_by s.length
decreasing_by
  · exact Nat.lt_succ_self _
  · exact Nat.lt_succ_of_le (length_skip_le ..)
  · exact Nat.lt_succ_self _

/-- Adds a glyph. -/
def step (separators : Text) (d : Draft) (glyph : Glyph) : Draft :=
  match glyph with
  | .char _ _ => d.add glyph
  | .mark => { d with hasBegun := true }
  | .value s => d.addValue separators s
  | .gap => if d.hasBegun then d.finish else d
  | .cut => d.finish

end Draft

/-- Cuts what a word stands for into fields. -/
def ofGlyphs (separators : Text) (glyphs : List Glyph) : List (List Glyph) :=
  let d := glyphs.foldl (Draft.step separators) {}
  (if d.hasBegun then d.finish else d).found.reverse

/-! ## Names of files -/

/-- The pieces of a wildcard between slashes. -/
def pieces (form : Text) : List Text :=
  let rec go : Nat → Text → Text → List Text
    | 0, found, _ => [found.reverse]
    | limit + 1, found, s =>
      match s with
      | [] => [found.reverse]
      | '\\' :: '/' :: s | '/' :: s => found.reverse :: go limit [] s
      | '\\' :: c :: s => go limit (c :: '\\' :: found) s
      | c :: s => go limit (c :: found) s
  go form.length [] form

/-- Whether a bracket is closed behind its opening. -/
def closesBracket : Nat → Text → Bool
  | 0, _ => false
  | limit + 1, s =>
    match s with
    | '\\' :: _ :: ']' :: _ => true
    | '\\' :: _ :: s => closesBracket limit s
    | _ :: ']' :: _ => true
    | _ :: s => closesBracket limit s
    | [] => false

/-- Whether a wildcard stands for several names. -/
def isOpen : Nat → Text → Bool
  | 0, _ => false
  | limit + 1, s =>
    match s with
    | [] => false
    | '*' :: _ | '?' :: _ => true
    | '[' :: s =>
      let inside := match s with
        | '!' :: s => s
        | s => s
      closesBracket inside.length inside || isOpen limit s
    | '\\' :: _ :: s => isOpen limit s
    | _ :: s => isOpen limit s

/-- A wildcard without its backslashes. -/
def bare : Text → Text
  | '\\' :: c :: s => c :: bare s
  | c :: s => c :: bare s
  | [] => []

/-- The names of files behind a path that pieces of a wildcard stand for. -/
def namesBehind (fs : FileSystem) : Nat → Text → List Text → List Text
  | 0, _, _ => []
  | limit + 1, path, pieces =>
    let closed := pieces.takeWhile fun piece => !isOpen piece.length piece
    let path := path ++ Text.join ['/'] (closed.map bare)
    match pieces.drop closed.length with
    | [] => if (fs.stat (Task.pathOf path)).isOk then [path] else []
    | piece :: rest =>
      let path := if closed = [] then path else path ++ ['/']
      match fs.list? (Task.pathOf (if path = [] then ['.'] else path)) with
      | none => []
      | some names =>
        let showsDots := piece.head? = some '.' || "\\.".toList.isPrefixOf piece
        let names := (if showsDots then ["..".toList, ['.']] else []) ++ names.map Utf8.narrow
        let pattern := Pattern.ofWildcard ['!'] piece
        let names := names.filter fun name =>
          (showsDots || name.head? ≠ some '.') && pattern.fits false name
        names.flatMap fun name =>
          if rest = [] then [path ++ name] else namesBehind fs limit (path ++ name ++ ['/']) rest

/-- The names of files that a field stands for, in their order.  One that stands for none is left. -/
def names (fs : FileSystem) (field : List Glyph) : List Text :=
  let form := Glyph.form field
  let pieces := pieces form
  let found := if pieces.any fun piece => isOpen piece.length piece
    then namesBehind fs (pieces.length + 1) [] pieces else []
  if found = [] then [Glyph.text field] else found.mergeSort fun a b => !(b < a)

/-! ## Lines for variables -/

/-- Whether a glyph separates fields. -/
def separates (separators : Text) : Glyph → Bool
  | .char c false => separators.contains c
  | _ => false

/-- Whether a glyph is a blank that separates fields. -/
def isGap (separators : Text) : Glyph → Bool
  | .char c false => separators.contains c && " \t\n".toList.contains c
  | _ => false

/-- The last value of a line: all that is left, without blanks behind it, and without a separator
behind it if that is the only one. -/
def lastValue (separators : Text) (glyphs : List Glyph) : List Glyph :=
  let field := glyphs.takeWhile fun glyph => !separates separators glyph
  let rest := (glyphs.drop field.length).dropWhile (isGap separators)
  let behind := match rest with
    | glyph :: more =>
      if separates separators glyph then more.dropWhile (isGap separators) else rest
    | [] => []
  if behind = [] then field
  else (glyphs.reverse.dropWhile (isGap separators)).reverse

/-- Cuts a line into values for a number of variables; the last one takes all that is left. -/
def spread (separators : Text) : Nat → List Glyph → List Text
  | 0, _ => []
  | count + 1, glyphs =>
    let glyphs := glyphs.dropWhile (isGap separators)
    if count = 0 then [Glyph.text (lastValue separators glyphs)]
    else
      let field := glyphs.takeWhile fun glyph => !separates separators glyph
      let rest := (glyphs.drop field.length).dropWhile (isGap separators)
      let rest := match rest with
        | glyph :: more => if separates separators glyph then more else rest
        | [] => []
      Glyph.text field :: spread separators count rest

end Field

end Shell

end ScriptBundle
