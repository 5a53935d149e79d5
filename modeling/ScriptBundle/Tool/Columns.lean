/-
# Columns and fields

Tools that take lines apart and put them together: cutting columns, pasting files side by side,
folding long lines, and numbering.

## Main content

- `Tool.cut`, `Tool.paste`, `Tool.fold`, `Tool.number`, `Tool.expandTabs` and `Tool.sequence`.
-/
import ScriptBundle.Tool.Whole

namespace ScriptBundle

namespace Tool

/-! ## Cutting -/

/-- A range of positions, counted from one. -/
structure PositionRange where
  /-- The first position. -/
  first : Nat
  /-- The last position, if there is one. -/
  last : Option Nat

/-- Whether a position is in a range. -/
def PositionRange.has (range : PositionRange) (n : Nat) : Bool :=
  range.first ≤ n && range.last.all (n ≤ ·)

/-- Reads a range of positions.  The name of what is counted is for reports. -/
def PositionRange.read (inFields : Bool) (s : Text) : Except Text PositionRange :=
  let kind := if inFields then "field".toList else "byte/character position".toList
  let range := if inFields then "field range".toList else "byte or character range".toList
  let fromOne := if inFields then "fields are numbered from 1".toList
    else "byte/character positions are numbered from 1".toList
  let bad (s : Text) : Except Text PositionRange :=
    .error ("invalid ".toList ++ (if s.contains '-' then range else kind ++ " value".toList) ++
      [' '] ++ Quoted.plain s)
  match Text.splitWith (· = '-') s with
  | [row] =>
    match Numeral.ofRow? row with
    | some 0 => .error fromOne
    | some n => .ok ⟨n, some n⟩
    | none =>
      if row = [] then .error fromOne
      else
        .error ("invalid ".toList ++ kind ++ " value ".toList ++
          Quoted.plain (row.dropWhile Char.isDigit))
  | [[], []] => .error "invalid range with no endpoint: -".toList
  | [[], row] =>
    match Numeral.ofRow? row with
    | some 0 => .error "invalid decreasing range".toList
    | some n => .ok ⟨1, some n⟩
    | none => bad (row.dropWhile Char.isDigit)
  | [row, []] =>
    match Numeral.ofRow? row with
    | some 0 => .error fromOne
    | some n => .ok ⟨n, none⟩
    | none => bad (row.dropWhile Char.isDigit)
  | [low, high] =>
    match Numeral.ofRow? low, Numeral.ofRow? high with
    | some 0, some _ => .error fromOne
    | some m, some n => if n < m then .error "invalid decreasing range".toList else .ok ⟨m, some n⟩
    | _, _ => bad s
  | _ => .error ("invalid ".toList ++ range)

/-- The members of a row at chosen positions, with where they stand. -/
def chosen {α : Type} (ranges : List PositionRange) (complement : Bool) (row : List α) :
    List (Nat × α) :=
  (row.zipIdx 1).filterMap fun (member, n) =>
    if (ranges.any (·.has n)) != complement then some (n, member) else none

/-- Puts a text between runs of neighbouring positions. -/
def joinRuns (separator : Text) (ranges : List PositionRange) : Option Nat → List (Nat × Char) → Text
  | _, [] => []
  | last, (n, c) :: rest =>
    let startsRange := ranges.any (·.first = n) && !(ranges.any fun r => r.first < n && r.has n)
    let gap := match last with
      | some m => n ≠ m + 1 || startsRange
      | none => false
    (if gap then separator else []) ++ c :: joinRuns separator ranges (some n) rest

/-- Cuts columns or fields out of lines. -/
def cut : Task Nat := do
  let o ← Task.usualOptions
    ("b|bytes: c|characters: f|fields: d|delimiter: n s|only-delimited complement " ++
      "output-delimiter: z|zero-terminated")
  let lists := o.values "b" ++ o.values "c" ++ o.values "f"
  if lists = [] then
    Task.misuse "you must specify a list of bytes, characters, or fields".toList 1
  if 1 < lists.length then Task.misuse "only one list may be specified".toList 1
  let inFields := o.has "f"
  let delimiter := match o.value? "d" with
    | some [] => ['\x00']
    | some s => s
    | none => ['\t']
  if delimiter.length ≠ 1 then Task.misuse "the delimiter must be a single character".toList 1
  if !inFields && o.has "d" then
    Task.misuse "an input delimiter may be specified only when operating on fields".toList 1
  if !inFields && o.has "s" then
    Task.misuse "suppressing non-delimited lines makes sense\n\tonly when operating on fields".toList 1
  let list := lists.headD []
  let mut ranges : List PositionRange := []
  for piece in Text.splitWith (fun c => c = ',' || c = ' ' || c = '\t') list do
    match PositionRange.read inFields piece with
    | .ok range => ranges := ranges ++ [range]
    | .error message => Task.misuse message 1
  let complement := o.has "complement"
  let mark := delimiter.headD '\t'
  let separator := (o.value? "output-delimiter").getD (if inFields then delimiter else [])
  let cutLine (line : Text) : Option Text :=
    if inFields then
      if line.contains mark then
        some (Text.join separator
          ((chosen ranges complement (Text.splitWith (· = mark) line)).map (·.2)))
      else if o.has "s" then none
      else some line
    else some (joinRuns separator (if complement then [] else ranges) none
      (chosen ranges complement line))
  let mut status := 0
  for operand in sources o.operands do
    match ← Task.contentOf operand with
    | .ok content => Task.out ((bareLines content).filterMap cutLine |>.flatMap (· ++ ['\n']))
    | .error fault =>
      Task.complain (about operand fault)
      status := 1
  return status

/-! ## Pasting -/

/-- The separators of a list with escapes.  An escaped zero is no separator at all. -/
def separators : Text → List Text
  | [] => []
  | '\\' :: c :: s =>
    (match c with
      | 'n' => ['\n']
      | 't' => ['\t']
      | '0' => []
      | 'b' => ['\x08']
      | 'f' => ['\x0c']
      | 'r' => ['\x0d']
      | 'v' => ['\x0b']
      | c => [c]) :: separators s
  | c :: s => [c] :: separators s

/-- Puts separators between texts, in turn and from the beginning again. -/
def interleave (marks : List Text) : Nat → List Text → Text
  | _, [] => []
  | _, [last] => last
  | n, s :: rest => s ++ marks.getD (n % marks.length) [] ++ interleave marks (n + 1) rest

/-- Puts the lines of files side by side. -/
def paste : Task Nat := do
  let o ← Task.usualOptions "d|delimiters: s|serial z|zero-terminated"
  let marks := match separators ((o.value? "d").getD ['\t']) with
    | [] => [[]]
    | marks => marks
  let mut status := 0
  let mut columns : List (List Text) := []
  let operands := sources o.operands
  let dashes := operands.count ['-']
  let mut dash := 0
  let inputLines ← if dashes = 0 then pure [] else do
    pure (match ← Task.input with
      | .ok content => bareLines content
      | .error _ => [])
  for operand in operands do
    if operand = ['-'] then
      let mine := if o.has "s" then (if dash = 0 then inputLines else [])
        else (inputLines.zipIdx.filter fun (_, n) => n % dashes = dash).map (·.1)
      columns := columns ++ [mine]
      dash := dash + 1
    else
      match ← Task.fileContent operand with
      | .ok content => columns := columns ++ [bareLines content]
      | .error fault =>
        if o.has "s" then
          Task.complain (about operand fault)
          status := 1
        else Task.fail (about operand fault) 1
  if o.has "s" then
    for column in columns do Task.outLine (interleave marks 0 column)
  else
    let height := columns.foldl (fun height column => max height column.length) 0
    for n in List.range height do
      Task.outLine (interleave marks 0 (columns.map fun column => column.getD n []))
  return status

/-! ## Folding -/

/-- The column behind a character. -/
def columnBehind (inBytes : Bool) (column : Nat) (c : Char) : Nat :=
  if inBytes then column + 1
  else
    match c with
    | '\x08' => column - 1
    | '\x0d' => 0
    | '\t' => column / 8 * 8 + 8
    | _ => column + 1

/-- Where a piece that is too long is cut: behind its last blank, or at its end. -/
def cutAtBlank (atBlanks : Bool) (piece : Text) : Text × Text :=
  if atBlanks then
    let back := piece.reverse.takeWhile fun c => c ≠ ' ' && c ≠ '\t'
    if back.length = piece.length then (piece, [])
    else (piece.take (piece.length - back.length), back.reverse)
  else (piece, [])

/-- The width of a piece. -/
def pieceWidth (inBytes : Bool) (piece : Text) : Nat := piece.foldl (columnBehind inBytes) 0

/-- Folds a line: the pieces that fit, the last one behind the others. -/
def foldLine (width : Nat) (inBytes atBlanks : Bool) : Text → Text → Text
  | piece, [] => piece
  | piece, c :: s =>
    if width < columnBehind inBytes (pieceWidth inBytes piece) c ∧ piece ≠ [] then
      let (front, back) := cutAtBlank atBlanks piece
      front ++ ['\n'] ++ foldLine width inBytes atBlanks (back ++ [c]) s
    else foldLine width inBytes atBlanks (piece ++ [c]) s

/-- Breaks lines that are too long. -/
def fold : Task Nat := do
  let args := (← read).args.map fun arg =>
    match arg with
    | '-' :: row => if Numeral.isRow row then '-' :: 'w' :: row else arg
    | arg => arg
  let o ← match Options.read (OptionForm.table "b|bytes s|spaces w|width:") true args with
    | .ok o => pure o
    | .error message => Task.misuse message 1
  let width ← match Numeral.ofRow? ((o.value? "w").getD ['8', '0']) with
    | some 0 | none =>
      Task.fail ("invalid number of columns: ".toList ++ Quoted.plain ((o.value? "w").getD [])) 1
    | some width => pure width
  let (content, status) ← contents o.operands
  for line in Text.lines content do
    let (bare, ended) := bareLine line
    Task.out (foldLine width (o.has "b") (o.has "s") [] bare ++ (if ended then ['\n'] else []))
  return status

/-! ## Numbering -/

/-- Numbers lines. -/
def number : Task Nat := do
  let o ← Task.usualOptions
    ("b|body-numbering: f|footer-numbering: h|header-numbering: d|section-delimiter: " ++
      "i|line-increment: l|join-blank-lines: n|number-format: p|no-renumber s|number-separator: " ++
      "v|starting-line-number: w|number-width:")
  let amount (name : String) (usual : Nat) : Nat :=
    ((o.value? name).bind Numeral.ofRow?).getD usual
  let style := (o.value? "b").getD ['t']
  let format := (o.value? "n").getD ['r', 'n']
  let width := amount "w" 6
  let separator := (o.value? "s").getD ['\t']
  let (content, status) ← contents o.operands
  let mut next := amount "v" 1
  for line in Text.lines content do
    let (bare, _) := bareLine line
    if style = ['a'] ∨ (style = ['t'] ∧ bare ≠ []) then
      let d : Directive := { width, left := format = ['l', 'n'], zeros := format = ['r', 'z'] }
      Task.outLine (d.integer next ++ separator ++ bare)
      next := next + amount "i" 1
    else Task.outLine (List.replicate (width + separator.length) ' ' ++ bare)
  return status

/-! ## Tabs -/

/-- Writes blanks for the tabs of a line. -/
def blanksForTabs (width : Nat) (leadingOnly : Bool) : Nat → Bool → Text → Text
  | _, _, [] => []
  | column, isLeading, c :: s =>
    if c = '\t' ∧ (isLeading ∨ !leadingOnly) then
      let gap := width - column % width
      List.replicate gap ' ' ++ blanksForTabs width leadingOnly (column + gap) isLeading s
    else c :: blanksForTabs width leadingOnly (if c = '\n' then 0 else column + 1)
      (c = '\n' || (isLeading && (c = ' ' || c = '\t'))) s

/-- Writes blanks for tabs. -/
def expandTabs : Task Nat := do
  let o ← Task.usualOptions "i|initial t|tabs:"
  let width := max 1 (((o.value? "t").bind Numeral.ofRow?).getD 8)
  let (content, status) ← contents o.operands
  Task.out (blanksForTabs width (o.has "i") 0 true content)
  return status

/-! ## Rows of numbers -/

/-- How many places a written number has. -/
def placesOf (s : Text) : Nat := (s.dropWhile (· ≠ '.')).length - 1

/-- A written number as a whole number of units, of which ten to the given power are one. -/
def unitsOf? (places : Nat) (s : Text) : Option Int :=
  let (negative, bare) := Numeral.readSign s
  let front := bare.takeWhile (· ≠ '.')
  let back := (bare.drop front.length).drop 1
  let row := front ++ back ++ List.replicate (places - back.length) '0'
  if (front ++ back) ≠ [] ∧ (front ++ back).all Char.isDigit then
    let n : Int := Numeral.value 10 row
    some (if negative then -n else n)
  else none

/-- The members of a row of numbers. -/
def steps (step last : Int) : Nat → Int → List Int
  | 0, _ => []
  | limit + 1, n =>
    if (0 < step ∧ last < n) ∨ (step < 0 ∧ n < last) then []
    else n :: steps step last limit (n + step)

/-- A number of units with its point. -/
def unitsText (places : Nat) (n : Int) : Text :=
  (if n < 0 then ['-'] else []) ++ Real.pointed places false n.natAbs

/-- Options of a tool whose operands may be negative numbers. -/
def numericOptions (table : String) : List Text → Except Text Options
  | [] => .ok {}
  | ('-' :: c :: rest) :: args =>
    if c.isDigit ∨ c = '.' then .ok { operands := ('-' :: c :: rest) :: args }
    else if c = '-' ∧ rest = [] then .ok { operands := args }
    else
      let known := Options.read (OptionForm.table table) false (('-' :: c :: rest) :: args)
      known
  | args => .ok { operands := args }

/-- Writes a row of numbers. -/
def sequence : Task Nat := do
  let table := "f|format: s|separator: w|equal-width"
  let o ← match numericOptions table (← read).args with
    | .ok o => pure o
    | .error message => Task.misuse message 1
  let bad (s : Text) : Task Int :=
    Task.misuse ("invalid floating point argument: ".toList ++ Quoted.plain s) 1
  let (first, step, last) ← match o.operands with
    | [last] => pure (['1'], ['1'], last)
    | [first, last] => pure (first, ['1'], last)
    | [first, step, last] => pure (first, step, last)
    | [] => Task.misuse "missing operand".toList 1
    | _ => Task.misuse ("extra operand ".toList ++ Quoted.plain (o.operands.getD 3 [])) 1
  let places := max (placesOf first) (placesOf step)
  let scale := max places (placesOf last)
  let units (s : Text) : Task Int := match unitsOf? scale s with
    | some n => pure n
    | none => bad s
  let low ← units first
  let stride ← units step
  let high ← units last
  if stride = 0 then
    Task.misuse ("invalid Zero increment value: ".toList ++ Quoted.plain step) 1
  let members := steps stride high 100000 low
  let scaleDown : Int := Nat.pow 10 (scale - places)
  let texts := members.map fun n => unitsText places (n / scaleDown)
  let width := if o.has "w" then
    max (unitsText places (low / scaleDown)).length (unitsText places (high / scaleDown)).length
    else 0
  let wide (s : Text) : Text :=
    match s with
    | '-' :: row => '-' :: (List.replicate (width - s.length) '0' ++ row)
    | s => List.replicate (width - s.length) '0' ++ s
  let texts := match o.value? "f" with
    | none => texts.map wide
    | some format => members.map fun n =>
      let x := Real.ofInt n / Float.ofNat (Nat.pow 10 scale)
      let front := format.takeWhile (· ≠ '%')
      let draft := Directive.read ((format.drop front.length).drop 1)
      let d := draft.complete 0 0
      front ++ d.real (draft.rest.headD 'g') x ++ draft.rest.drop 1
  let separator := (o.value? "s").getD ['\n']
  if texts ≠ [] then Task.outLine (Text.join separator texts)
  return 0

end Tool

end ScriptBundle
