/-
# Editing texts

Runs an edit script over the lines of files.  Each line goes through all commands of the script and
is shown at the end, unless a command says otherwise.

## Main content

- `EditState` is what a running script keeps.
- `Tool.edit` is the tool.
-/
import ScriptBundle.Tool.Edit.Script

namespace ScriptBundle

/-- Whether a command with two addresses applies at the moment. -/
inductive EditRange where
  /-- It does not apply. -/
  | inactive
  /-- It applies, up to a line if its number is known. -/
  | active (last : Option Nat)

/-- What a running script keeps. -/
structure EditState where
  /-- The line that is edited. -/
  space : Text := []
  /-- Whether a newline ends it. -/
  ended : Bool := true
  /-- The text that is kept from line to line. -/
  hold : Text := []
  /-- The character that ends lines. -/
  mark : Char := '\n'
  /-- The lines that are left, each with whether it is ended and with the name of its file. -/
  lines : List (Text × Bool × Text) := []
  /-- The number of the line. -/
  number : Nat := 0
  /-- The name of the file. -/
  file : Text := ['-']
  /-- For each command, whether it applies. -/
  ranges : Array EditRange
  /-- The texts that are shown behind the line, the last one first. -/
  queue : List Text := []
  /-- Whether a substitution was made since the last line or jump. -/
  replaced : Bool := false
  /-- The pattern that was used last. -/
  lastPattern : Option Pattern := none
  /-- Whether the output does not end with a newline. -/
  lacking : Bool := false
  /-- The output, where it is kept for a file. -/
  kept : Option Text := none
  /-- Files of which lines are read one by one: what is left of them. -/
  readings : List (Text × List Text) := []

/-- What a running script does. -/
abbrev EditRun := StateT EditState Task

/-- How a run through the commands ends. -/
inductive EditEnd where
  /-- The line is shown. -/
  | shown
  /-- The line is not shown. -/
  | hidden
  /-- The commands begin again with what is left of the line. -/
  | again
  /-- The script ends with a status, and the line is shown or not. -/
  | quit (status : Nat) (shows : Bool)

namespace EditRun

/-- Writes to the output. -/
def write (s : Text) : EditRun Unit := do
  let state ← get
  let s := if state.lacking ∧ s ≠ [] then state.mark :: s else s
  set { state with lacking := state.lacking && s = [] }
  match state.kept with
  | some kept => modify fun state => { state with kept := some (kept ++ s) }
  | none => liftM (Task.out s)

/-- Writes a line that ends as the edited one. -/
def writeLine (s : Text) : EditRun Unit := do
  let state ← get
  if state.ended then write (s ++ [state.mark])
  else
    write s
    modify fun state => { state with lacking := true }

/-- Shows what is to be shown behind the line. -/
def writeQueue : EditRun Unit := do
  let queue := (← get).queue
  modify fun state => { state with queue := [] }
  for s in queue.reverse do write s

/-- Adds a line to a file. -/
def addToFile (name s : Text) : EditRun Unit := do
  let state ← get
  let line := if state.ended then s ++ [state.mark] else s
  if name = "/dev/stdout".toList then write line
  else if name = "/dev/stderr".toList then liftM (Task.writeTo 2 line)
  else
    let _ ← liftM (Task.writeFile name true line)

/-- Takes the next line, if there is one. -/
def nextLine : EditRun (Option (Text × Bool)) := do
  let state ← get
  match state.lines with
  | [] => return none
  | (line, ended, file) :: lines =>
    set { state with lines, number := state.number + 1, file }
    return some (line, ended)

/-- Looks for a pattern, or for the last one. -/
def resolve (pattern : EditPattern) : EditRun Pattern := do
  match pattern.pattern? with
  | some found =>
    modify fun state => { state with lastPattern := some found }
    return found
  | none =>
    match (← get).lastPattern with
    | some found => return found
    | none =>
      liftM (m := Task) (n := EditRun)
        (Task.fail "-e expression #1, char 0: no previous regular expression".toList 1)

/-- Whether an address is at the line. -/
def isAt (address : EditAddress) : EditRun Bool := do
  let state ← get
  match address with
  | .line n => return state.number = n
  | .last => return state.lines.isEmpty
  | .every first step =>
    return if first ≤ state.number then (state.number - first) % step = 0 else false
  | .pattern pattern =>
    let found ← resolve pattern
    return found.occursIn pattern.anyCase state.space

/-- Where the lines end that begin here. -/
def rangeFrom (number : Nat) (isNumbered : Bool) : EditStop → EditRange
  | .address (.line n) => if n ≤ number then .inactive else .active (some n)
  | .address .last => if isNumbered then .active none else .active none
  | .address _ => .active none
  | .later count => if count = 0 then .inactive else .active (some (number + count))
  | .multiple n => if n = 0 then .inactive else .active (some ((number / n + 1) * n))

/-- Whether a command applies to the line, apart from negation. -/
def applies (index : Nat) (command : EditCommand) : EditRun Bool := do
  let setRange (range : EditRange) : EditRun Unit :=
    modify fun state => { state with ranges := state.ranges.setIfInBounds index range }
  match command.first, command.last with
  | none, _ => return true
  | some first, none => isAt first
  | some first, some last =>
    match (← get).ranges.getD index .inactive with
    | .inactive =>
      if ← isAt first then
        let state ← get
        match last with
        | .address .last => setRange (if state.lines.isEmpty then .inactive else .active none)
        | last => setRange (rangeFrom state.number true last)
        return true
      else return false
    | .active (some n) =>
      let number := (← get).number
      if n ≤ number then setRange .inactive
      return number ≤ n
    | .active none =>
      match last with
      | .address address => if ← isAt address then setRange .inactive
      | _ => setRange .inactive
      return true

/-! ## Substitutions -/

/-- A replacement that is put together: what there is, the case of the rest, and the case of the next
character. -/
structure Cased where
  /-- The text so far. -/
  found : Text := []
  /-- The letter of the case of all that follows. -/
  mode : Char := 'E'
  /-- The letter of the case of the next character. -/
  once : Option Char := none

/-- Adds a text in the case that is asked for. -/
def Cased.add (cased : Cased) (s : Text) : Cased :=
  let s := if cased.mode = 'U' then s.map Char.toUpper
    else if cased.mode = 'L' then s.map Char.toLower else s
  match s with
  | [] => cased
  | c :: rest =>
    let c := match cased.once with
      | some 'u' => c.toUpper
      | some _ => c.toLower
      | none => c
    { cased with found := cased.found ++ c :: rest, once := none }

/-- What takes the place of a found text. -/
def replacementText (s : Text) (found : Pattern.Found) (pieces : List EditPiece) : Text :=
  let cased := pieces.foldl
    (fun (cased : Cased) piece =>
      match piece with
      | .text text => cased.add text
      | .group n => cased.add (found.groupText s n)
      | .letterCase letter =>
        if letter = 'u' ∨ letter = 'l' then { cased with once := some letter }
        else { cased with mode := letter, once := none })
    {}
  cased.found

/-- Replaces some of the found places. -/
def replacePlaces (s : Text) (sub : EditSubstitution) : Nat → Nat → List Pattern.Found → Text
  | _, start, [] => s.drop start
  | n, start, found :: others =>
    let before := (s.drop start).take (found.start - start)
    if n < sub.first ∨ (sub.first < n ∧ !sub.all) then
      before ++ found.text s ++ replacePlaces s sub (n + 1) found.stop others
    else before ++ replacementText s found sub.replacement ++
      replacePlaces s sub (n + 1) found.stop others

/-- Replaces what a pattern finds in the line. -/
def substitute (sub : EditSubstitution) : EditRun Unit := do
  let pattern ← resolve sub.pattern
  let state ← get
  let places :=
    if sub.first = 1 ∧ !sub.all then (pattern.find? sub.pattern.anyCase state.space 0).toList
    else pattern.findAll sub.pattern.anyCase state.space
  if sub.first ≤ places.length then
    let space := replacePlaces state.space sub 1 0 places
    set { state with space, replaced := true }
    if sub.prints ≠ 0 then writeLine space
    if let some file := sub.file then addToFile file space

/-! ## Commands -/

/-- A character in a line that shows all of its characters. -/
def listed (c : Char) : Text :=
  if c = '\\' then ['\\', '\\']
  else if c = '\x08' then ['\\', 'b']
  else if Quoted.isPrintable c then [c]
  else Quoted.escaped c

/-- Breaks shown characters into rows of a width. -/
def listedRows (width : Nat) : Text → List Text → Text
  | row, [] => row ++ ['$', '\n']
  | row, s :: rest =>
    if width < row.length + s.length then row ++ ['\\', '\n'] ++ listedRows width s rest
    else listedRows width (row ++ s) rest

/-- Does what a letter says.  The answer is how the run ends, if it does. -/
def plain (letter : Char) : EditRun (Option EditEnd) := do
  let state ← get
  match letter with
  | '=' => write (Text.ofNat state.number ++ ['\n'])
  | 'd' => return some .hidden
  | 'D' =>
    if state.space.contains state.mark then
      set { state with space := (state.space.dropWhile (· ≠ state.mark)).drop 1 }
      return some .again
    else return some .hidden
  | 'F' => write (state.file ++ ['\n'])
  | 'g' => set { state with space := state.hold }
  | 'G' => set { state with space := state.space ++ [state.mark] ++ state.hold }
  | 'h' => set { state with hold := state.space }
  | 'H' => set { state with hold := state.hold ++ [state.mark] ++ state.space }
  | 'l' => write (listedRows 69 [] (state.space.map listed))
  | 'p' => writeLine state.space
  | 'P' => write (state.space.takeWhile (· ≠ state.mark) ++ [state.mark])
  | 'x' => set { state with space := state.hold, hold := state.space }
  | 'z' => set { state with space := [] }
  | _ => pure ()
  return none

/-- Takes the next line, in place of the edited one or behind it. -/
def take (quiet : Bool) (letter : Char) : EditRun (Option EditEnd) := do
  let state ← get
  if state.lines.isEmpty then return some (.quit 0 true)
  if letter = 'n' then
    if !quiet then writeLine state.space
  writeQueue
  match ← nextLine with
  | none => return some (.quit 0 true)
  | some (line, ended) =>
    let state ← get
    let space := if letter = 'n' then line else state.space ++ [state.mark] ++ line
    set { state with space, ended }
    return none

/-- Reads or writes a file. -/
def useFile (letter : Char) (name : Text) : EditRun Unit := do
  let state ← get
  match letter with
  | 'w' => addToFile name state.space
  | 'W' =>
    let line := state.space.takeWhile (· ≠ '\n')
    if name = "/dev/stdout".toList then write (line ++ ['\n'])
    else
      let _ ← liftM (Task.writeFile name true (line ++ ['\n']))
  | 'r' =>
    let content ← liftM (if name = "/dev/stdin".toList then Task.input else Task.fileContent name)
    if let .ok content := content then set { state with queue := content :: state.queue }
  | _ =>
    let lines ← match state.readings.lookup name with
      | some lines => pure lines
      | none => do
        match ← liftM (Task.fileContent name) with
        | .ok content => pure (Text.lines content)
        | .error _ => pure []
    let readings := (name, lines.drop 1) :: state.readings.filter (·.1 ≠ name)
    match lines with
    | line :: _ => set { state with readings, queue := Text.withNewline line :: state.queue }
    | [] => set { state with readings }

/-- Runs commands from one on. -/
def execute (quiet : Bool) (draft : EditDraft) : Nat → Nat → EditRun EditEnd
  | 0, _ => return .quit 1 false
  | limit + 1, index => do
    match draft.commands[index]? with
    | none => return .shown
    | some command =>
      let chosen := (← applies index command) != command.negated
      if !chosen then
        match command.action with
        | .block stop => execute quiet draft limit stop
        | _ => execute quiet draft limit (index + 1)
      else
        match command.action with
        | .block _ | .label _ => execute quiet draft limit (index + 1)
        | .plain letter =>
          let done ← if letter = 'n' ∨ letter = 'N' then take quiet letter else plain letter
          match done with
          | some done => return done
          | none => execute quiet draft limit (index + 1)
        | .text 'a' s =>
          modify fun state => { state with queue := s :: state.queue }
          execute quiet draft limit (index + 1)
        | .text 'i' s =>
          write s
          execute quiet draft limit (index + 1)
        | .text _ s =>
          let isOpen := match (← get).ranges.getD index .inactive with
            | .active _ => command.last.isSome && !command.negated
            | .inactive => false
          if !isOpen then write s
          return .hidden
        | .jump letter name =>
          let state ← get
          let jumps := letter = 'b' || (letter = 't' && state.replaced) ||
            (letter = 'T' && !state.replaced)
          if letter ≠ 'b' then set { state with replaced := false }
          if jumps then execute quiet draft limit ((draft.labelPlace? name).getD draft.commands.size)
          else execute quiet draft limit (index + 1)
        | .quit letter status => return .quit status (letter = 'q')
        | .file letter name =>
          useFile letter name
          execute quiet draft limit (index + 1)
        | .substitute sub =>
          substitute sub
          execute quiet draft limit (index + 1)
        | .translate pairs =>
          modify fun state =>
            { state with space := state.space.map fun c => (pairs.lookup c).getD c }
          execute quiet draft limit (index + 1)

/-- How many commands are run for one line at most. -/
def commandLimit : Nat := 1000000

/-- Edits line by line.  The answer is the status, if the script ended itself. -/
def cycles (quiet : Bool) (draft : EditDraft) : Nat → Bool → EditRun (Option Nat)
  | 0, _ => return none
  | limit + 1, keeps => do
    let ready ←
      if keeps then pure true
      else do
        match ← nextLine with
        | none => pure false
        | some (space, ended) =>
          modify fun state => { state with space, ended, replaced := false }
          pure true
    if !ready then return none
    let done ← execute quiet draft commandLimit 0
    let state ← get
    match done with
    | .shown => if !quiet then writeLine state.space
    | .quit _ shows => if shows && !quiet then writeLine state.space
    | _ => pure ()
    match done with
    | .quit _ false => pure ()
    | _ => writeQueue
    match done with
    | .quit status _ => return some status
    | .again => cycles quiet draft limit true
    | _ => cycles quiet draft limit false

end EditRun

namespace Tool

/-- The pieces of a script.  A piece that ends with a backslash goes on with the next one. -/
def joinPieces : List (Bool × Text) → List (Bool × Text)
  | [] => []
  | (isFile, s) :: rest =>
    match joinPieces rest with
    | (other, next) :: others =>
      if (s.reverse.takeWhile (· = '\\')).length % 2 = 1 then (isFile, s ++ ['\n'] ++ next) :: others
      else (isFile, s) :: (other, next) :: others
    | [] => [(isFile, s)]

/-- Reads a script, or ends the program. -/
def editScript (dialect : PatternDialect) (pieces : List (Bool × Text)) : Task EditDraft := do
  let mut draft : EditDraft := { dialect }
  let mut number := 0
  for (isFile, piece) in joinPieces pieces do
    number := number + 1
    match draft.readPiece number piece with
    | .ok next => draft := next
    | .error message =>
      let place := if isFile then "file".toList else "-e expression #".toList ++ Text.ofNat number
      Task.fail (place ++ ", ".toList ++ message) 1
  if let (_, opening) :: _ := draft.braces.reverse then
    Task.fail ("-e expression #".toList ++ Text.ofNat opening ++
      ", char 0: unmatched \x60\x7b'".toList) 1
  if let some name := draft.missingLabel? then
    Task.fail ("can't find label for jump to \x60".toList ++ name ++ ['\'']) 1
  return draft

/-- The files that a script writes to. -/
def writtenFiles (draft : EditDraft) : List Text :=
  draft.commands.toList.filterMap fun command =>
    match command.action with
    | .file 'w' name | .file 'W' name => some name
    | .substitute sub => sub.file
    | _ => none

/-- Edits files with a script. -/
def edit : Task Nat := do
  let table := "n|quiet n|silent e|expression: f|file: E|regexp-extended r i|in-place? s|separate " ++
    "u|unbuffered z|null-data l|line-length: posix debug sandbox follow-symlinks"
  let o ← match Options.read (OptionForm.table table) true (← read).args with
    | .ok o => pure o
    | .error message => do
      Task.complain message
      Task.quit 1
  let mut pieces : List (Bool × Text) := []
  for (name, value) in o.given do
    if name = ['e'] then pieces := pieces ++ [(false, value)]
    else if name = ['f'] then
      match ← Task.contentOf value with
      | .ok content => pieces := pieces ++ [(true, content)]
      | .error fault =>
        Task.fail ("couldn't open file ".toList ++ value ++ [':', ' '] ++ fault.words) 1
  let mut operands := o.operands
  if !o.has "e" && !o.has "f" then
    match operands with
    | [] =>
      Task.writeTo 2
        "Usage: sed [OPTION]... \x7bscript-only-if-no-other-script\x7d [input-file]...\n\n".toList
      Task.quit 1
    | script :: rest =>
      pieces := [(false, script)]
      operands := rest
  let isExtended := o.has "E" || o.has "r"
  let quiet := o.has "n" || (pieces.headD (false, [])).2.take 3 = ['#', 'n', '\n'] ||
    (pieces.headD (false, [])).2 = ['#', 'n']
  let draft ← editScript (if isExtended then .extendedEdit else .basicEdit) pieces
  for file in writtenFiles draft do
    if file ≠ "/dev/stdout".toList ∧ file ≠ "/dev/stderr".toList then
      if let .error fault ← Task.writeFile file false [] then
        Task.fail ("couldn't open file ".toList ++ file ++ [':', ' '] ++ fault.words) 4
  let inPlace := o.has "i"
  if inPlace && operands = [] then Task.fail "no input files".toList 4
  let separate := inPlace || o.has "s"
  let ranges : Array EditRange := draft.commands.map fun command =>
    match command.first with
    | some (.line 0) => .active none
    | _ => .inactive
  let mark := if o.has "z" then '\x00' else '\n'
  let linesOf (file content : Text) : List (Text × Bool × Text) :=
    let pieces := Text.splitWith (· = mark) content
    (pieces.dropLast.map fun line => (line, true, file)) ++
      (match pieces.getLast? with
        | some [] | none => []
        | some last => [(last, false, file)])
  let mut status := 0
  let mut groups : List (Text × List (Text × Bool × Text)) := []
  for operand in sources operands do
    let source := if inPlace then Task.fileContent operand else Task.contentOf operand
    match ← source with
    | .ok content => groups := groups ++ [(operand, linesOf operand content)]
    | .error .isDirectory =>
      if inPlace then
        Task.complain ("couldn't edit ".toList ++ operand ++ ": not a regular file".toList)
        status := 4
      else
        Task.complain ("read error on ".toList ++ operand ++ ": Is a directory".toList)
        status := 4
    | .error fault =>
      Task.complain ("can't read ".toList ++ operand ++ [':', ' '] ++ fault.words)
      status := 2
  let runs := if separate then groups else [([], groups.flatMap (·.2))]
  let mut state : EditState := { ranges }
  for (name, lines) in runs do
    let start := { state with
      mark, lines, ranges, number := 0, kept := if inPlace then some [] else none }
    let limit := lines.foldl (fun n line => n + line.1.length + 2) 2
    let (done, after) ← (EditRun.cycles quiet draft limit false).run start
    state := after
    if let some kept := after.kept then
      let rest := if done.isSome then
          after.lines.flatMap fun (line, ended, _) => if ended then line ++ [mark] else line
        else []
      if let .ok old ← Task.fileContent name then
        match o.value? "i" with
        | some [] | none => pure ()
        | some suffix =>
          let backup := if suffix.contains '*' then
            suffix.flatMap fun c => if c = '*' then name else [c] else name ++ suffix
          let _ ← Task.writeFile backup false old
      let _ ← Task.writeFile name false (kept ++ rest)
    if let some code := done then return (if code = 0 then status else code)
  return status

end Tool

end ScriptBundle
