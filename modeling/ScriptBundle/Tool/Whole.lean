/-
# Tools for whole inputs

Tools that pass their input on as it is, in parts, or shown in another way, and tools that count.

## Main content

- `Tool.concatenate`, `Tool.firstPart`, `Tool.lastPart`, `Tool.count`, `Tool.copyAside` and
  `Tool.reverseLines` are the tools.
-/
import ScriptBundle.Process.Options
import ScriptBundle.Process.Quoted
import ScriptBundle.Numeral.Directive

namespace ScriptBundle

namespace Tool

/-- The operands, or a dash for the input where there are none. -/
def sources (operands : List Text) : List Text := if operands = [] then [['-']] else operands

/-- A report about an operand. -/
def about (operand : Text) (fault : IoFault) : Text :=
  Quoted.name operand ++ [':', ' '] ++ fault.words

/-- The contents of all operands that can be read, one after the other, and the status.  Each other
one is reported. -/
def contents (operands : List Text) : Task (Text × Nat) := do
  let mut found : List Text := []
  let mut status := 0
  for operand in sources operands do
    match ← Task.contentOf operand with
    | .ok content => found := content :: found
    | .error fault =>
      Task.complain (about operand fault)
      status := 1
  return (found.reverse.flatten, status)

/-- A line without the newline that ends it, and whether it has one. -/
def bareLine (line : Text) : Text × Bool :=
  if line.getLast? = some '\n' then (line.dropLast, true) else (line, false)

/-- The lines of a text without the newlines that end them. -/
def bareLines (s : Text) : List Text := (Text.lines s).map fun line => (bareLine line).1

/-- A number at the right side of a field. -/
def padded (width n : Nat) : Text := ({ width } : Directive).word (Text.ofNat n)

/-! ## Showing an input -/

/-- A control character behind a caret, and other bytes behind the mark of the upper half. -/
def visible (c : Char) : Text :=
  let n := c.toNat
  let lower (n : Nat) : Text :=
    if n < 32 then ['^', Char.ofNat (n + 64)]
    else if n = 127 then ['^', '?']
    else [Char.ofNat n]
  if n < 128 then lower n else ['M', '-'] ++ lower (n - 128)

/-- How lines are shown. -/
structure View where
  /-- Whether all lines are numbered. -/
  numbersAll : Bool
  /-- Whether lines with content are numbered. -/
  numbersFull : Bool
  /-- Whether several empty lines become one. -/
  squeezes : Bool
  /-- Whether ends of lines are shown. -/
  showsEnds : Bool
  /-- Whether tabs are shown. -/
  showsTabs : Bool
  /-- Whether other control characters are shown. -/
  showsControls : Bool

/-- Shows the inside of a line. -/
def View.inside (v : View) (s : Text) : Text :=
  s.flatMap fun c =>
    if c = '\t' then (if v.showsTabs then ['^', 'I'] else [c])
    else if v.showsControls then visible c
    else [c]

/-- Shows lines from a number on. -/
def View.lines (v : View) : Nat → Bool → List Text → Text
  | _, _, [] => []
  | number, behindEmpty, line :: rest =>
    let (bare, ended) := bareLine line
    let isEmpty := bare = []
    if v.squeezes && isEmpty && behindEmpty then v.lines number true rest
    else
      let numbered := if isEmpty then v.numbersAll && !v.numbersFull else v.numbersAll || v.numbersFull
      let label := if numbered then padded 6 number ++ ['\t'] else []
      let shown := if v.showsEnds && bare.getLast? = some '\x0d' && !v.showsControls && ended then
        v.inside bare.dropLast ++ ['^', 'M'] else v.inside bare
      label ++ shown ++ (if ended then (if v.showsEnds then ['$', '\n'] else ['\n']) else []) ++
        v.lines (if numbered then number + 1 else number) isEmpty rest

/-- Shows files one after the other. -/
def concatenate : Task Nat := do
  let o ← Task.usualOptions
    ("A|show-all b|number-nonblank e E|show-ends n|number s|squeeze-blank t T|show-tabs u " ++
      "v|show-nonprinting")
  let controls := o.has "v" || o.has "A" || o.has "e" || o.has "t"
  let view : View :=
    { numbersAll := o.has "n", numbersFull := o.has "b", squeezes := o.has "s",
      showsEnds := o.has "E" || o.has "A" || o.has "e",
      showsTabs := o.has "T" || o.has "A" || o.has "t", showsControls := controls }
  let (content, status) ← contents o.operands
  Task.out (if o.given = [] then content else view.lines 1 false (Text.lines content))
  return status

/-! ## Parts of an input -/

/-- The factor that a suffix of a size stands for. -/
def factor? (suffix : Text) : Option Nat :=
  match String.ofList suffix with
  | "" => some 1
  | "b" => some 512
  | "kB" => some 1000
  | "k" | "K" | "KiB" => some 1024
  | "MB" => some (1000 * 1000)
  | "m" | "M" | "MiB" => some (1024 * 1024)
  | "GB" => some (1000 * 1000 * 1000)
  | "G" | "GiB" => some (1024 * 1024 * 1024)
  | _ => none

/-- A size with its suffix. -/
def size? (s : Text) : Option Nat :=
  match Numeral.spanDigits 10 s with
  | ([], _) => none
  | (row, suffix) => (factor? suffix).map (Numeral.value 10 row * ·)

/-- How much of an input is meant. -/
structure Amount where
  /-- A number of lines or bytes. -/
  size : Nat
  /-- Whether it counts from the other end. -/
  fromOtherEnd : Bool
  /-- Whether bytes are counted. -/
  inBytes : Bool

/-- Reads an amount.  A sign says from which end it counts. -/
def Amount.ofText? (otherEnd : Char) (inBytes : Bool) (s : Text) : Option Amount :=
  let (sign, bare) := match s with
    | '-' :: s => (some '-', s)
    | '+' :: s => (some '+', s)
    | s => (none, s)
  (size? bare).map fun size => ⟨size, sign = some otherEnd, inBytes⟩

/-- The first part of a content. -/
def Amount.front (a : Amount) (s : Text) : Text :=
  if a.inBytes then (if a.fromOtherEnd then s.take (s.length - a.size) else s.take a.size)
  else
    let lines := Text.lines s
    (lines.take (if a.fromOtherEnd then lines.length - a.size else a.size)).flatten

/-- The last part of a content. -/
def Amount.back (a : Amount) (s : Text) : Text :=
  if a.inBytes then s.drop (if a.fromOtherEnd then a.size - 1 else s.length - a.size)
  else
    let lines := Text.lines s
    (lines.drop (if a.fromOtherEnd then a.size - 1 else lines.length - a.size)).flatten

/-- The amount that options ask for. -/
def amountOf (otherEnd : Char) (o : Options) : Task Amount := do
  let read (inBytes : Bool) (what : String) (s : Text) : Task Amount := do
    match Amount.ofText? otherEnd inBytes s with
    | some amount => return amount
    | none => Task.fail ("invalid number of ".toList ++ what.toList ++ ": ".toList ++ Quoted.plain s) 1
  match o.lastOf ["n", "c"] with
  | some ['c'] => read true "bytes" ((o.value? "c").getD [])
  | some _ => read false "lines" ((o.value? "n").getD [])
  | none => return ⟨10, false, false⟩

/-- The arguments with an amount that is written as a plain option. -/
def spelledOut (signs : List Char) (args : List Text) : List Text :=
  match args with
  | (sign :: row) :: rest =>
    let (digits, suffix) := Numeral.spanDigits 10 row
    if signs.contains sign ∧ digits ≠ [] ∧ (suffix = [] ∨ suffix = ['c'] ∨ suffix = ['l']) then
      let amount := if sign = '+' then '+' :: digits else digits
      (if suffix = ['c'] then ['-', 'c'] else ['-', 'n']) :: amount :: rest
    else args
  | args => args

/-- Shows a part of every operand, under headings if there are several. -/
def showParts (o : Options) (part : Text → Text) (early : Bool) : Task Nat := do
  let operands := sources o.operands
  let headings := match o.lastOf ["q", "v"] with
    | some ['q'] => false
    | some _ => true
    | none => 1 < operands.length
  let mut status := 0
  let mut isFirst := true
  for operand in operands do
    let title := if operand = ['-'] then "standard input".toList else operand
    match ← Task.contentOf operand with
    | .ok content =>
      if headings then
        Task.out ((if isFirst then [] else ['\n']) ++ "==> ".toList ++ title ++ " <==\n".toList)
      let shown := part content
      Task.out shown
      if early && operand = ['-'] then Task.giveBack (content.length - shown.length)
      isFirst := false
    | .error .isDirectory =>
      if headings then
        Task.out ((if isFirst then [] else ['\n']) ++ "==> ".toList ++ title ++ " <==\n".toList)
      Task.complain ("error reading ".toList ++ Quoted.always title ++ ": Is a directory".toList)
      isFirst := false
      status := 1
    | .error fault =>
      Task.complain ("cannot open ".toList ++ Quoted.always operand ++ " for reading: ".toList ++
        fault.words)
      status := 1
  return status

/-- Reads the options of a tool that shows parts, behind an amount that stands first. -/
def partOptions (signs : List Char) (table : String) : Task Options := do
  match Options.read (OptionForm.table table) true (spelledOut signs (← read).args) with
  | .ok o => return o
  | .error message => Task.misuse message 1

/-- Shows the first part of files. -/
def firstPart : Task Nat := do
  let o ← partOptions ['-'] "c|bytes: n|lines: q|quiet q|silent v|verbose z|zero-terminated"
  let amount ← amountOf '-' o
  showParts o amount.front true

/-- Shows the last part of files. -/
def lastPart : Task Nat := do
  let o ← partOptions ['-', '+'] "c|bytes: n|lines: q|quiet q|silent v|verbose f|follow? F s: retry"
  let amount ← amountOf '+' o
  showParts o amount.back false

/-! ## Counting -/

/-- What is counted in a content. -/
structure Counts where
  /-- Newlines. -/
  lines : Nat := 0
  /-- Words. -/
  words : Nat := 0
  /-- Bytes. -/
  bytes : Nat := 0
  /-- The width of the widest line. -/
  widest : Nat := 0

/-- The width of a line that stands behind `width` columns. -/
def lineWidth (width : Nat) : Text → Nat
  | [] => width
  | c :: s =>
    if c = '\t' then lineWidth (width / 8 * 8 + 8) s
    else lineWidth (if Quoted.isPrintable c then width + 1 else width) s

/-- Counts a content. -/
def Counts.of (s : Text) : Counts :=
  let rows := Text.splitWith (fun c => c = '\n' || c = '\x0c' || c = '\x0d') s
  { lines := s.count '\n'
    words := ((Text.splitWith Numeral.isBlank s).filter (· ≠ [])).length
    bytes := s.length
    widest := rows.foldl (fun widest row => max widest (lineWidth 0 row)) 0 }

/-- Counts of several contents. -/
def Counts.add (a b : Counts) : Counts :=
  ⟨a.lines + b.lines, a.words + b.words, a.bytes + b.bytes, max a.widest b.widest⟩

/-- The size of the file behind an operand, or `none` for what is no file. -/
def sizeBehind (operand : Text) : Task (Except IoFault (Option Nat)) := do
  if operand = ['-'] then
    match ← Task.stream? 0 with
    | some n =>
      match (← get).streams[n]?.map Stream.channel with
      | some (.file place _ _) => return .ok (some ((← Task.files).bytesAt place).length)
      | _ => return .ok none
    | none => return .error .badHandle
  else
    return ((← Task.files).stat (Task.pathOf operand)).map fun node =>
      match node with
      | .file content => some content.length
      | _ => none

/-- The width of the columns.  It is chosen by the sizes of all files before any of them is read. -/
def countWidth (operands : List Text) (columns : Nat) : Task Nat := do
  if operands.length = 1 ∧ columns = 1 then return 1
  let mut total := 0
  let mut least := 1
  let mut isFirst := true
  for operand in operands do
    match ← sizeBehind operand with
    | .ok (some size) => total := total + size
    | .ok none => least := 7
    | .error _ => if isFirst then return 1
    isFirst := false
  return max least (Text.ofNat total).length

/-- Counts the lines, words and bytes of files. -/
def count : Task Nat := do
  let o ← Task.usualOptions
    "c|bytes m|chars l|lines w|words L|max-line-length total: files0-from:"
  let usual := !(o.has "c" || o.has "m" || o.has "l" || o.has "w" || o.has "L")
  let columns (counts : Counts) : List Nat :=
    (if usual || o.has "l" then [counts.lines] else []) ++
      (if usual || o.has "w" then [counts.words] else []) ++
      (if o.has "m" then [counts.bytes] else []) ++
      (if usual || o.has "c" then [counts.bytes] else []) ++
      (if o.has "L" then [counts.widest] else [])
  let operands := sources o.operands
  let width ← countWidth operands (columns {}).length
  let total := (o.value? "total").getD "auto".toList
  let row (width : Nat) (counts : Counts) (name : Text) : Text :=
    Text.join [' '] ((columns counts).map (padded width)) ++
      (if name = [] then [] else ' ' :: name) ++ ['\n']
  let width := if total = "only".toList then 1 else width
  let mut sum : Counts := {}
  let mut status := 0
  for operand in operands do
    let name := if o.operands = [] then [] else
      if operand.contains '\n' then Quoted.always operand else operand
    match ← Task.contentOf operand with
    | .ok content =>
      let counts := Counts.of content
      if total ≠ "only".toList then Task.out (row width counts name)
      sum := sum.add counts
    | .error fault =>
      Task.complain (about operand fault)
      status := 1
      if fault = .isDirectory ∧ total ≠ "only".toList then Task.out (row width {} name)
  if total = "only".toList then Task.out (row width sum [])
  else if total = "always".toList ∨ (total = "auto".toList ∧ 1 < operands.length) then
    Task.out (row width sum "total".toList)
  return status

/-! ## Other ways to pass an input on -/

/-- Passes the input on and keeps copies of it in files. -/
def copyAside : Task Nat := do
  let o ← Task.usualOptions "a|append i|ignore-interrupts p output-error?"
  match ← Task.input with
  | .ok content =>
    Task.out content
    let mut status := 0
    for operand in o.operands do
      if operand = ['-'] then Task.out content
      else if let .error fault ← Task.writeFile operand (o.has "a") content then
        Task.complain (about operand fault)
        status := 1
    return status
  | .error fault => Task.fail ("read error: ".toList ++ fault.words) 1

/-- Shows the lines of files from the last to the first. -/
def reverseLines : Task Nat := do
  let o ← Task.usualOptions "b|before r|regex s|separator:"
  let mut status := 0
  for operand in sources o.operands do
    match ← Task.contentOf operand with
    | .ok content => Task.out (Text.lines content).reverse.flatten
    | .error .isDirectory =>
      Task.complain (Quoted.name operand ++ ": read error: Is a directory".toList)
      status := 1
    | .error fault =>
      Task.complain ("failed to open ".toList ++ Quoted.always operand ++ " for reading: ".toList ++
        fault.words)
      status := 1
  return status

/-- Shows the lines of files with their characters from the last to the first. -/
def reverseCharacters : Task Nat := do
  let o ← Task.usualOptions "V|version h|help"
  let mut status := 0
  for operand in sources o.operands do
    match ← Task.contentOf operand with
    | .ok content =>
      for line in Text.lines content do
        let (bare, ended) := bareLine line
        Task.out (bare.reverse ++ (if ended then ['\n'] else []))
    | .error fault =>
      Task.complain ("cannot open ".toList ++ operand ++ ": ".toList ++ fault.words)
      status := 1
  return status

end Tool

end ScriptBundle
