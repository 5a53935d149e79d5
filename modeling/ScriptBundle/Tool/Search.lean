/-
# Searching lines

A tool that shows the lines in which patterns fit.

## Main content

- `Search` says what is searched for and what is shown.
- `Tool.search` is the tool.
-/
import ScriptBundle.Tool.Whole
import ScriptBundle.Pattern.Reader

namespace ScriptBundle

/-- What is searched for in lines. -/
structure Search where
  /-- The pattern. -/
  pattern : Pattern
  /-- Whether letters fit without their case. -/
  anyCase : Bool
  /-- Whether lines count in which the pattern does not fit. -/
  inverted : Bool
  /-- Whether the pattern has to fit a whole line. -/
  wholeLines : Bool
  /-- Whether the pattern has to fit whole words. -/
  wholeWords : Bool

namespace Search

/-- Whether a place begins and ends at the ends of words. -/
def isWord (text : Text) (start stop : Nat) : Bool :=
  !Pattern.isWordChar ((text.take start).getLast?) && !Pattern.isWordChar (text[stop]?)

/-- The first place from a position on at which the pattern fits. -/
def find? (s : Search) (line : Text) : Nat → Nat → Option (Nat × Nat)
  | 0, _ => none
  | limit + 1, start =>
    if line.length < start then none
    else
      let spot : Pattern.Spot :=
        { position := start, before := (line.take start).getLast?, rest := line.drop start }
      let stops := (Pattern.ends line s.anyCase s.pattern spot).map (·.position)
      let fits (stop : Nat) : Bool :=
        (!s.wholeLines || (start = 0 && stop = line.length)) &&
          (!s.wholeWords || isWord line start stop)
      match stops.find? fits with
      | some stop => some (start, stop)
      | none => if s.wholeLines then none else s.find? line limit (start + 1)

/-- Whether a line counts. -/
def selects (s : Search) (line : Text) : Bool :=
  let found :=
    if s.wholeLines || s.wholeWords then (s.find? line (line.length + 1) 0).isSome
    else s.pattern.occursIn s.anyCase line
  found != s.inverted

/-- The places of the pattern in a line that are not empty. -/
def places (s : Search) (line : Text) : Nat → Nat → List (Nat × Nat)
  | 0, _ => []
  | limit + 1, start =>
    match s.find? line (line.length + 1) start with
    | none => []
    | some (first, last) =>
      if first = last then
        if first < line.length then s.places line limit (first + 1) else []
      else (first, last) :: s.places line limit last

end Search

namespace Tool

/-- The pattern that fits exactly one text. -/
def literalPattern (s : Text) : Pattern :=
  s.foldr (fun c rest => .sequence (.char (.single c)) rest) .nothing

/-- The pattern that fits where one of several does. -/
def anyPattern : List Pattern → Pattern
  | [] => .char ⟨[], false⟩
  | [pattern] => pattern
  | pattern :: patterns => .choice pattern (anyPattern patterns)

/-- What is shown of a file in which lines were found. -/
structure SearchView where
  /-- Whether only the number of lines is shown. -/
  counts : Bool
  /-- Whether only the names of files with such lines are shown. -/
  listsFiles : Bool
  /-- Whether only the names of files without such lines are shown. -/
  listsOthers : Bool
  /-- Whether nothing is shown. -/
  silent : Bool
  /-- Whether only the places are shown. -/
  onlyPlaces : Bool
  /-- Whether lines are numbered. -/
  numbers : Bool
  /-- Whether positions are shown. -/
  offsets : Bool
  /-- Whether names of files are shown. -/
  names : Bool
  /-- How many lines are looked for. -/
  most : Option Nat
  /-- How many lines are shown in front of each. -/
  before : Nat
  /-- How many lines are shown behind each. -/
  after : Nat

namespace SearchView

/-- What stands in front of a line. -/
def label (v : SearchView) (name : Text) (number offset : Nat) (mark : Char) : Text :=
  (if v.names then name ++ [mark] else []) ++
    (if v.numbers then Text.ofNat number ++ [mark] else []) ++
    (if v.offsets then Text.ofNat offset ++ [mark] else [])

/-- A line with its number and the position at which it starts. -/
structure Row where
  /-- The number. -/
  number : Nat
  /-- The position. -/
  offset : Nat
  /-- The line. -/
  line : Text
  /-- Whether it counts. -/
  selected : Bool

/-- The lines of a content. -/
def rowsFrom (select : Text → Bool) : Nat → Nat → List Text → List Row
  | _, _, [] => []
  | number, offset, line :: lines =>
    let bare := (bareLine line).1
    ⟨number, offset, bare, select bare⟩ :: rowsFrom select (number + 1) (offset + line.length) lines

/-- Counts down the selected lines and drops what comes behind the last one and its context. -/
def limitRows (after : Nat) : Nat → List Row → List Row
  | _, [] => []
  | 0, rows => (rows.takeWhile fun row => !row.selected).take after
  | n + 1, row :: rows =>
    row :: limitRows after (if row.selected then n else n + 1) rows

/-- The lines to show with their context. -/
def shownRows (v : SearchView) (rows : List Row) : List Row :=
  let chosen := (rows.filter (·.selected)).map (·.number)
  if v.before = 0 ∧ v.after = 0 then rows.filter (·.selected)
  else rows.filter fun row => chosen.any fun n => n ≤ row.number + v.before && row.number ≤ n + v.after

/-- Writes the lines to show. -/
def text (v : SearchView) (s : Search) (name : Text) : Option Nat → List Row → Text
  | _, [] => []
  | last, row :: rows =>
    let gap := (v.before ≠ 0 || v.after ≠ 0) && last.any (· + 1 < row.number)
    let line :=
      if v.onlyPlaces then
        if row.selected && !s.inverted then
          (s.places row.line (row.line.length + 1) 0).flatMap fun (start, stop) =>
            v.label name row.number (row.offset + start) ':' ++
              (row.line.drop start).take (stop - start) ++ ['\n']
        else []
      else
        v.label name row.number row.offset (if row.selected then ':' else '-') ++ row.line ++ ['\n']
    (if gap then "--\n".toList else []) ++ line ++ v.text s name (some row.number) rows

end SearchView

/-- The files below a directory, deepest names last. -/
def filesBelow (fs : FileSystem) (place : Location) : Nat → Text → List Text
  | 0, _ => []
  | depth + 1, label =>
    (Text.nameSet (fs.entries place)).flatMap fun name =>
      let inner := place ++ [name]
      let path := if label = [] then Utf8.narrow name else label ++ ['/'] ++ Utf8.narrow name
      match fs.node? inner with
      | some .directory => filesBelow fs inner depth path
      | _ => [path]

/-- Reads the patterns of the search. -/
def searchPattern (o : Options) (lists : List Text) : Task Pattern := do
  let dialect : PatternDialect := match o.lastOf ["E", "F", "G", "P"] with
    | some ['E'] | some ['P'] => .extended
    | _ => .basic
  let isLiteral := o.lastOf ["E", "F", "G", "P"] = some ['F']
  let mut patterns : List Pattern := []
  for list in lists do
    for line in Text.splitWith (· = '\n') list do
      if isLiteral then patterns := patterns ++ [literalPattern line]
      else
        match Pattern.ofText? dialect line with
        | .ok pattern => patterns := patterns ++ [pattern]
        | .error fault => Task.fail fault.text 2
  return anyPattern patterns

/-- Shows the lines in which patterns fit. -/
def search : Task Nat := do
  let args := (← read).args.map fun arg =>
    match arg with
    | '-' :: row => if Numeral.isRow row then '-' :: 'C' :: row else arg
    | arg => arg
  let table :=
    "E|extended-regexp F|fixed-strings G|basic-regexp P|perl-regexp e|regexp: f|file: " ++
    "i|ignore-case y no-ignore-case w|word-regexp x|line-regexp z|null-data s|no-messages " ++
    "v|invert-match m|max-count: b|byte-offset n|line-number line-buffered H|with-filename " ++
    "h|no-filename label: o|only-matching q|quiet q|silent binary-files: a|text I d|directories: " ++
    "D|devices: r|recursive R|dereference-recursive include: exclude: exclude-dir: " ++
    "L|files-without-match l|files-with-matches c|count T|initial-tab Z|null A|after-context: " ++
    "B|before-context: C|context: color? colour? U|binary"
  let misuse : Task Nat := do
    Task.writeTo 2 "Usage: grep [OPTION]... PATTERNS [FILE]...\n".toList
    Task.misuse [] 2
  let o ← match Options.read (OptionForm.table table) true args with
    | .ok o => pure o
    | .error message =>
      Task.complain message
      return ← misuse
  let mut lists := o.values "e"
  for file in o.values "f" do
    match ← Task.contentOf file with
    | .ok content => lists := lists ++ bareLines content
    | .error fault => Task.fail (file ++ [':', ' '] ++ fault.words) 2
  let mut operands := o.operands
  if !o.has "e" && !o.has "f" then
    match operands with
    | [] => return ← misuse
    | list :: rest =>
      lists := [list]
      operands := rest
  let pattern ← searchPattern o lists
  let s : Search :=
    { pattern, anyCase := o.lastOf ["i", "y", "no-ignore-case"] ∈ [some ['i'], some ['y']],
      inverted := o.has "v", wholeLines := o.has "x", wholeWords := o.has "w" }
  let recursive := o.has "r" || o.has "R" || o.value? "d" = some "recurse".toList
  let fs ← Task.files
  let expanded := if !recursive then sources operands
    else (if operands = [] then [[]] else operands).flatMap fun operand =>
      if operand = [] then filesBelow fs fs.cwd fs.nodes.length []
      else
        match fs.locate (Task.pathOf operand) with
        | .ok place =>
          if fs.node? place = some .directory then
            let bare := if operand.getLast? = some '/' then operand.dropLast else operand
            filesBelow fs place fs.nodes.length bare
          else [operand]
        | .error _ => [operand]
  let amount (name : String) : Task (Option Nat) := do
    match o.value? name with
    | none => return none
    | some row =>
      match Numeral.ofRow? row with
      | some n => return some n
      | none =>
        if name = "m" then Task.fail "invalid max count".toList 2
        else Task.fail (row ++ ": invalid context length argument".toList) 2
  let around ← amount "C"
  let before ← amount "B"
  let after ← amount "A"
  let v : SearchView :=
    { counts := o.has "c", listsFiles := o.has "l", listsOthers := o.has "L",
      silent := o.has "q", onlyPlaces := o.has "o", numbers := o.has "n", offsets := o.has "b",
      names := match o.lastOf ["H", "h"] with
        | some ['H'] => true
        | some _ => false
        | none => recursive || 1 < operands.length
      most := ← amount "m", before := (before.or around).getD 0, after := (after.or around).getD 0 }
  let mut found := false
  let mut wrong := false
  let mut shownBefore := false
  for operand in expanded do
    let name := if operand = ['-'] then (o.value? "label").getD "(standard input)".toList else operand
    match ← Task.contentOf operand with
    | .error fault =>
      if !o.has "s" then Task.complain (name ++ [':', ' '] ++ fault.words)
      wrong := true
    | .ok content =>
      let rows := SearchView.rowsFrom s.selects 1 0 (Text.lines content)
      let rows := match v.most with
        | some most => SearchView.limitRows v.after most rows
        | none => rows
      let chosen := rows.filter (·.selected)
      let isFound := !chosen.isEmpty
      if v.silent then
        if isFound then return 0
      else if v.listsFiles then
        if isFound then Task.outLine name
      else if v.listsOthers then
        if !isFound then Task.outLine name
      else if v.counts then
        Task.outLine ((if v.names then name ++ [':'] else []) ++ Text.ofNat chosen.length)
      else if isFound then
        if content.contains '\x00' && !o.has "a" then
          Task.complain (name ++ ": binary file matches".toList)
        else
          let context := v.before ≠ 0 || v.after ≠ 0
          if context && shownBefore then Task.out "--\n".toList
          Task.out (v.text s name none (v.shownRows rows))
          shownBefore := true
      found := found || (if v.listsOthers then !isFound else isFound)
  return if wrong then 2 else if found then 0 else 1

end Tool

end ScriptBundle
