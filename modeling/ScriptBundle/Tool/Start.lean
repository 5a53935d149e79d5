/-
# Tools that start programs, and small tools

Tools that run a program in a changed environment, with arguments from their input, or for every file
of a tree, and tools that only say something.

## Main content

- `Tool.withEnvironment`, `Tool.withArguments` and `Tool.walkFiles` start programs.
- `Tool.calculate` computes an expression from its arguments.
-/
import ScriptBundle.Pattern.Wildcard
import ScriptBundle.Process.Formatted
import ScriptBundle.Shell.Condition
import ScriptBundle.Tool.Files
import ScriptBundle.Tool.Search

namespace ScriptBundle

namespace Tool

/-! ## Starting programs -/

/-- Starts a program and gives its status, or reports that it cannot be started. -/
def startOr (quotes : Bool) (name : Text) (args : List Text) (environment : List (Text × Text)) :
    Task Nat := do
  match ← Task.startProgram name args environment with
  | .ok status => return status
  | .error fault =>
    Task.complain ((if quotes then Quoted.always name else name) ++ [':', ' '] ++ fault.words)
    return if fault = .notFound then 127 else 126

/-- Runs a program in a changed environment, or shows the environment. -/
def withEnvironment : Task Nat := do
  let o ← Task.options
    "i|ignore-environment 0|null u|unset: C|chdir: S|split-string: v|debug" false 125
  let process ← read
  let start := if o.has "i" || o.operands.head? = some ['-'] then [] else process.environment
  let kept := start.filter fun entry => !(o.values "u").contains entry.1
  let operands := if o.operands.head? = some ['-'] then o.operands.tail else o.operands
  let given := operands.takeWhile (·.contains '=')
  let environment := given.foldl
    (fun environment entry =>
      let name := entry.takeWhile (· ≠ '=')
      let value := entry.drop (name.length + 1)
      if environment.any (·.1 = name) then
        environment.map fun old => if old.1 = name then (name, value) else old
      else environment ++ [(name, value)])
    kept
  match operands.drop given.length with
  | [] =>
    for (name, value) in environment do Task.outLine (name ++ ['='] ++ value)
    return 0
  | name :: args => startOr true name args environment

/-- Shows values of the environment. -/
def showEnvironment : Task Nat := do
  let o ← Task.options "0|null" false 2
  let environment := (← read).environment
  match o.operands with
  | [] =>
    for (name, value) in environment do Task.outLine (name ++ ['='] ++ value)
    return 0
  | names =>
    let mut status := 0
    for name in names do
      match environment.lookup name with
      | some value => Task.outLine value
      | none => status := 1
    return status

/-- Runs the program that follows some options and a number of own operands. -/
def wrapping (table : String) (own : Nat) : Task Nat := do
  let o ← Task.options table false 125
  match o.operands.drop own with
  | [] => Task.misuse "missing operand".toList 125
  | name :: args => startOr true name args (← read).environment

/-- Reads arguments that are separated by blanks.  Quotes and backslashes keep blanks together. -/
def readArguments : Nat → Option Text → Text → Except Text (List Text)
  | 0, _, _ => .ok []
  | limit + 1, current, s =>
    match s with
    | [] => .ok current.toList
    | '\\' :: c :: s => readArguments limit (some (current.getD [] ++ [c])) s
    | c :: s =>
      if c = '\'' ∨ c = '"' then
        let inside := s.takeWhile fun d => d ≠ c && d ≠ '\n'
        if (s.drop inside.length).head? = some c then
          readArguments limit (some (current.getD [] ++ inside)) (s.drop (inside.length + 1))
        else
          let kind := if c = '"' then "double" else "single"
          .error ("unmatched ".toList ++ kind.toList ++
            " quote; by default quotes are special to xargs unless you use the -0 option".toList)
      else if c = ' ' ∨ c = '\t' ∨ c = '\n' then
        match current with
        | some arg => (readArguments limit none s).map (arg :: ·)
        | none => readArguments limit none s
      else readArguments limit (some (current.getD [] ++ [c])) s

/-- Cuts a list into groups of a size. -/
def groupsOf {α : Type} (size : Nat) : Nat → List α → List (List α)
  | 0, _ => []
  | limit + 1, items =>
    match items with
    | [] => []
    | items => items.take size :: groupsOf size limit (items.drop size)

/-- Runs a program with arguments from the input. -/
def withArguments : Task Nat := do
  let o ← Task.options
    ("0|null a|arg-file: d|delimiter: E: e? I: i|replace? L|max-lines: l? n|max-args: " ++
      "P|max-procs: p|interactive r|no-run-if-empty s|max-chars: t|verbose x|exit") false 1
  let content ← match o.value? "a" with
    | some file => Task.contentOf file
    | none => Task.input
  let content := content.toOption.getD []
  let command := if o.operands = [] then ["echo".toList] else o.operands
  let bySeparator (c : Char) : List Text :=
    let pieces := Text.splitWith (· = c) content
    if pieces.getLast? = some [] then pieces.dropLast else pieces
  let mark := match o.value? "I" with
    | some mark => some mark
    | none => (o.value? "i").map fun mark => if mark = [] then "\x7b\x7d".toList else mark
  let words ←
    if o.has "0" then pure (bySeparator '\x00')
    else
      match o.value? "d" with
      | some d => pure (bySeparator (match d with
          | ['\\', 'n'] => '\n'
          | ['\\', 't'] => '\t'
          | ['\\', '0'] => '\x00'
          | d => d.headD '\n'))
      | none =>
        if mark.isSome then
          pure (((bareLines content).map fun line => line.dropWhile SortBlank).filter (· ≠ []))
        else
          match readArguments (content.length + 1) none content with
          | .ok words => pure words
          | .error message => Task.fail message 1
  let calls : List (List Text) :=
    match mark with
    | some mark => words.map fun word => command.map fun arg =>
        if mark = [] then arg else Text.join word (splitAt mark arg)
    | none =>
      let size := ((o.value? "n").or (o.value? "L")).bind Numeral.ofRow?
      match size with
      | some size =>
        if o.has "L" then
          (groupsOf (max size 1) (words.length + 1) ((bareLines content).filter (· ≠ []))).map
            fun lines => command ++ lines.flatMap fun line =>
              (readArguments (line.length + 1) none line).toOption.getD []
        else (groupsOf (max size 1) (words.length + 1) words).map (command ++ ·)
      | none => if words = [] then [] else [command ++ words]
  let calls := if calls = [] ∧ mark = none ∧ !o.has "r" then [command] else calls
  let mut status := 0
  for call in calls do
    if o.has "t" then Task.writeTo 2 (Text.join [' '] call ++ ['\n'])
    match call with
    | [] => pure ()
    | name :: args =>
      match ← Task.startProgram name args (← read).environment with
      | .ok 0 => pure ()
      | .ok 255 => Task.fail (name ++ ": exited with status 255; aborting".toList) 124
      | .ok _ => status := 123
      | .error fault =>
        Task.fail (name ++ [':', ' '] ++ fault.words) (if fault = .notFound then 127 else 126)
  return status
where
  /-- Whether a character is blank within a line. -/
  SortBlank (c : Char) : Bool := c = ' ' || c = '\t'
  /-- The pieces of a text between the places of another one. -/
  splitAt (mark s : Text) : List Text :=
    let rec go : Nat → Text → Text → List Text
      | 0, found, _ => [found.reverse]
      | limit + 1, found, s =>
        match Text.after? mark s with
        | some rest => found.reverse :: go limit [] rest
        | none =>
          match s with
          | [] => [found.reverse]
          | c :: s => go limit (c :: found) s
    go (s.length + 1) [] s

/-! ## Walking through files -/

/-- What a file is asked for. -/
inductive FileTest where
  /-- Its name has a form. -/
  | name (form : Pattern) (anyCase : Bool)
  /-- Its path has a form. -/
  | path (form : Pattern)
  /-- It is a directory or a file. -/
  | kind (letter : Char)
  /-- It has no content or no entries. -/
  | empty
  /-- Its path is shown. -/
  | print (mark : Char)
  /-- It is removed. -/
  | delete
  /-- A program is run on it, or on all of them together. -/
  | run (command : List Text) (together : Bool)
  /-- Nothing is asked. -/
  | always
  /-- The opposite is asked. -/
  | not (test : FileTest)
  /-- Both are asked. -/
  | both (first second : FileTest)
  /-- One of two is asked. -/
  | either (first second : FileTest)

/-- Reads what files are asked for.  The answer has the arguments behind it. -/
def readTests : Nat → List Text → Except Text (FileTest × List Text)
  | 0, args => .ok (.always, args)
  | limit + 1, args => do
    let (first, args) ← readBoth limit args
    match args with
    | ['-', 'o'] :: args =>
      let (second, args) ← readTests limit args
      .ok (.either first second, args)
    | args => .ok (first, args)
where
  /-- Reads one test. -/
  readOne : Nat → List Text → Except Text (FileTest × List Text)
    | 0, args => .ok (.always, args)
    | limit + 1, args =>
      match args with
      | [] => .error "expected an expression".toList
      | arg :: args =>
        match String.ofList arg, args with
        | "!", args | "-not", args => do
          let (test, args) ← readOne limit args
          .ok (.not test, args)
        | "-name", form :: args => .ok (.name (Pattern.ofWildcard "!^".toList form) false, args)
        | "-iname", form :: args => .ok (.name (Pattern.ofWildcard "!^".toList form) true, args)
        | "-path", form :: args | "-wholename", form :: args => .ok (.path (Pattern.ofWildcard "!^".toList form), args)
        | "-type", [letter] :: args => .ok (.kind letter, args)
        | "-empty", args => .ok (.empty, args)
        | "-print", args => .ok (.print '\n', args)
        | "-print0", args => .ok (.print '\x00', args)
        | "-delete", args => .ok (.delete, args)
        | "-true", args => .ok (.always, args)
        | "-exec", args =>
          let command := args.takeWhile fun arg => arg ≠ [';'] && arg ≠ ['+']
          match args.drop command.length with
          | [';'] :: rest => .ok (.run command false, rest)
          | ['+'] :: rest => .ok (.run command.dropLast true, rest)
          | _ => .error "missing argument to \x60-exec'".toList
        | _, args =>
          if arg.head? = some '-' then
            match args with
            | [] =>
              if ["-name", "-iname", "-path", "-type"].contains (String.ofList arg) then
                .error ("missing argument to \x60".toList ++ arg ++ ['\''])
              else .error ("unknown predicate \x60".toList ++ arg ++ ['\''])
            | _ => .error ("unknown predicate \x60".toList ++ arg ++ ['\''])
          else .error ("paths must precede expression: \x60".toList ++ arg ++ ['\''])
  /-- Reads tests that are asked together. -/
  readBoth : Nat → List Text → Except Text (FileTest × List Text)
    | 0, args => .ok (.always, args)
    | limit + 1, args => do
      let (first, args) ← readGroup limit args
      match args with
      | [] | [')'] :: _ | ['-', 'o'] :: _ => .ok (first, args)
      | ['-', 'a'] :: args =>
        let (second, args) ← readBoth limit args
        .ok (.both first second, args)
      | args =>
        let (second, args) ← readBoth limit args
        .ok (.both first second, args)
  /-- Reads a test, or several of them in parentheses that hold one choice. -/
  readGroup : Nat → List Text → Except Text (FileTest × List Text)
    | 0, args => .ok (.always, args)
    | limit + 1, args =>
      match args with
      | ['('] :: args => do
        let (first, args) ← readChoices limit args
        match args with
        | [')'] :: args => .ok (first, args)
        | _ => .error "invalid expression; I was expecting to find a ')' somewhere but did not see one.".toList
      | ['!'] :: ['('] :: args => do
        let (first, args) ← readChoices limit args
        match args with
        | [')'] :: args => .ok (.not first, args)
        | _ => .error "invalid expression".toList
      | args => readOne limit args
  /-- Reads several tests of which one is asked. -/
  readChoices : Nat → List Text → Except Text (FileTest × List Text)
    | 0, args => .ok (.always, args)
    | limit + 1, args => do
      let (first, args) ← readBoth limit args
      match args with
      | ['-', 'o'] :: args =>
        let (second, args) ← readChoices limit args
        .ok (.either first second, args)
      | args => .ok (first, args)

/-- Whether a test does something by itself. -/
def acts : FileTest → Bool
  | .print _ | .delete | .run _ _ => true
  | .not test => acts test
  | .both first second | .either first second => acts first || acts second
  | _ => false

/-- The commands that are run on all files together. -/
def togetherCommands : FileTest → List (List Text)
  | .run command true => [command]
  | .not test => togetherCommands test
  | .both first second | .either first second => togetherCommands first ++ togetherCommands second
  | _ => []

/-- Asks a file. -/
def asks (path : Text) (place : Location) : FileTest → Task Bool
  | .name form anyCase => return form.fits anyCase (lastName path)
  | .path form => return form.fits false path
  | .kind letter => do
    let isDirectory := (← Task.files).node? place = some .directory
    return if letter = 'd' then isDirectory else letter = 'f' && !isDirectory
  | .empty => do
    let fs ← Task.files
    match fs.node? place with
    | some (.file content) => return content.isEmpty
    | some .directory => return (fs.entries place).isEmpty
    | _ => return false
  | .print mark => do
    Task.out (path ++ [mark])
    return true
  | .delete => do
    match ← removeAll path with
    | .ok _ => return true
    | .error fault =>
      Task.complain ("cannot delete ".toList ++ Quoted.always path ++ [':', ' '] ++ fault.words)
      return false
  | .run _ true => return true
  | .run command false => do
    match command.map fun arg => Text.join path (withArguments.splitAt "\x7b\x7d".toList arg) with
    | [] => return true
    | name :: args =>
      let status ← startOr true name args (← read).environment
      return status = 0
  | .always => return true
  | .not test => return !(← asks path place test)
  | .both first second => do
    if ← asks path place first then asks path place second else return false
  | .either first second => do
    if ← asks path place first then return true else asks path place second

/-- The paths below a directory with their places and depths, the directory first. -/
def walk (fs : FileSystem) : Nat → Nat → Text → Location → List (Text × Location × Nat)
  | 0, _, _, _ => []
  | limit + 1, depth, path, place =>
    (path, place, depth) ::
      (if fs.node? place = some .directory then
        (fs.entries place).flatMap fun name =>
          walk fs limit (depth + 1) (inside path (Utf8.narrow name)) (place ++ [name])
      else [])

/-- Asks all files of trees. -/
def walkFiles : Task Nat := do
  let args := (← read).args
  let isPath (arg : Text) : Bool :=
    match arg with
    | '-' :: _ :: _ => false
    | ['!'] | ['('] | [')'] => false
    | _ => true
  let paths := args.takeWhile isPath
  let rest := args.drop paths.length
  let rec limits : Nat → List Text → Option Nat × Nat × List Text
    | 0, args => (none, 0, args)
    | n + 1, args =>
      match args with
      | word :: value :: args =>
        if word = "-maxdepth".toList then
          let (_, least, args) := limits n args
          (Numeral.ofRow? value, least, args)
        else if word = "-mindepth".toList then
          let (most, _, args) := limits n args
          (most, (Numeral.ofRow? value).getD 0, args)
        else (none, 0, word :: value :: args)
      | args => (none, 0, args)
  let (most, least, rest) := limits rest.length rest
  let test ← if rest = [] then pure FileTest.always
    else
      match readTests (4 * rest.length + 4) rest with
      | .ok (test, []) => pure test
      | .ok (_, arg :: _) => Task.fail ("paths must precede expression: \x60".toList ++ arg ++ ['\'']) 1
      | .error message => Task.fail message 1
  let test := if acts test then test else .both test (.print '\n')
  let fs ← Task.files
  let mut status := 0
  let mut found : List Text := []
  for path in if paths = [] then [['.']] else paths do
    match fs.locate (Task.pathOf path), fs.stat (Task.pathOf path) with
    | .ok place, .ok _ =>
      let visited := walk fs (fs.nodes.length + 1) 0 path place
      for (path, place, depth) in visited do
        if least ≤ depth ∧ most.all (depth ≤ ·) then
          if ← asks path place test then found := path :: found
    | _, .error fault | .error fault, _ =>
      Task.complain (Quoted.always path ++ [':', ' '] ++ fault.words)
      status := 1
  for command in togetherCommands test do
    match command with
    | [] => pure ()
    | name :: args =>
      if found ≠ [] then
        if (← startOr true name (args ++ found.reverse) (← read).environment) ≠ 0 then status := 1
  return status

/-! ## Computing -/

/-- A value of an expression: texts that look like whole numbers count as these. -/
def wholeOf? (s : Text) : Option Int :=
  match s with
  | '-' :: row => (Numeral.ofRow? row).map fun n => -(n : Int)
  | row => (Numeral.ofRow? row).map fun n => n

/-- Whether a value of an expression counts as nothing. -/
def isNothing (s : Text) : Bool := s = [] || wholeOf? s = some 0

/-- What a pattern finds at the head of a value: the text of its group, or how long it is. -/
def matchHead (s form : Text) : Except Text Text :=
  match Pattern.ofText? .basic form with
  | .error fault => .error fault.text
  | .ok pattern =>
    let spot : Pattern.Spot := { position := 0, before := none, rest := s }
    match Pattern.ends s false pattern spot with
    | stop :: _ =>
      if pattern.groupCount = 0 then .ok (Text.ofNat stop.position)
      else .ok ((Pattern.groupText s stop.groups 1).getD [])
    | [] => .ok (if pattern.groupCount = 0 then ['0'] else [])

/-- Computes an operation. -/
def combine (sign : String) (a b : Text) : Except Text Text :=
  let truth (b : Bool) : Except Text Text := .ok (if b then ['1'] else ['0'])
  match sign with
  | "|" => .ok (if !isNothing a then a else if isNothing b then ['0'] else b)
  | "&" => .ok (if isNothing a || isNothing b then ['0'] else a)
  | ":" => matchHead a b
  | "<" | "<=" | "=" | "==" | "!=" | ">" | ">=" =>
    let result := match wholeOf? a, wholeOf? b with
      | some x, some y => compare x y
      | _, _ => if a < b then .lt else if a = b then .eq else .gt
    truth (match sign with
      | "<" => result = .lt
      | "<=" => result ≠ .gt
      | "!=" => result ≠ .eq
      | ">" => result = .gt
      | ">=" => result ≠ .lt
      | _ => result = .eq)
  | _ =>
    match wholeOf? a, wholeOf? b with
    | some x, some y =>
      match sign with
      | "+" => .ok (Numeral.ofInt (x + y))
      | "-" => .ok (Numeral.ofInt (x - y))
      | "*" => .ok (Numeral.ofInt (x * y))
      | "/" => if y = 0 then .error "division by zero".toList else .ok (Numeral.ofInt (x.tdiv y))
      | _ => if y = 0 then .error "division by zero".toList else .ok (Numeral.ofInt (x.tmod y))
    | _, _ => .error "non-integer argument".toList

/-- The signs of each level, the loosest first. -/
def signLevels : List (List String) :=
  [["|"], ["&"], ["<", "<=", "=", "==", "!=", ">", ">="], ["+", "-"], ["*", "/", "%"], [":"]]

/-- Reads and computes an expression of a level.  The answer has the arguments behind it. -/
def computeLevel : Nat → Nat → Text → List Text → Except Text (Text × List Text)
  | 0, _, _, _ => .error "syntax error".toList
  | limit + 1, level, behind, args => do
    match signLevels[level]? with
    | some signs =>
      let (first, rest) ← computeLevel limit (level + 1) behind args
      more limit level signs first rest
    | none =>
      let missing : Except Text (Text × List Text) :=
        if behind = [] then .error "syntax error".toList
        else .error ("syntax error: missing argument after ".toList ++ Quoted.plain behind)
      match args with
      | [] => missing
      | ['('] :: args =>
        let (v, rest) ← computeLevel limit 0 ['('] args
        match rest with
        | [')'] :: rest => .ok (v, rest)
        | [] =>
          .error ("syntax error: expecting ')' after ".toList ++ Quoted.plain (args.getLastD ['(']))
        | other :: _ => .error ("syntax error: expecting ')' instead of ".toList ++ Quoted.plain other)
      | [')'] :: _ => .error "syntax error: unexpected ')'".toList
      | ['+'] :: quoted :: rest => .ok (quoted, rest)
      | word :: rest =>
        match String.ofList word, rest with
        | "length", _ :: _ =>
          let (s, rest) ← computeLevel limit signLevels.length word rest
          .ok (Text.ofNat s.length, rest)
        | "index", _ :: _ =>
          let (s, rest) ← computeLevel limit signLevels.length word rest
          let (set, rest) ← computeLevel limit signLevels.length word rest
          .ok (Text.ofNat (match s.findIdx? set.contains with
            | some n => n + 1
            | none => 0), rest)
        | "match", _ :: _ =>
          let (s, rest) ← computeLevel limit signLevels.length word rest
          let (form, rest) ← computeLevel limit signLevels.length word rest
          .ok (← matchHead s form, rest)
        | "substr", _ :: _ =>
          let (s, rest) ← computeLevel limit signLevels.length word rest
          let (start, rest) ← computeLevel limit signLevels.length word rest
          let (size, rest) ← computeLevel limit signLevels.length word rest
          match wholeOf? start, wholeOf? size with
          | some start, some size =>
            if start ≤ 0 ∨ size ≤ 0 then .ok ([], rest)
            else .ok ((s.drop (start - 1).toNat).take size.toNat, rest)
          | _, _ => .ok ([], rest)
        | _, _ => .ok (word, rest)
where
  /-- Reads and computes what follows an operand. -/
  more : Nat → Nat → List String → Text → List Text → Except Text (Text × List Text)
    | 0, _, _, v, rest => .ok (v, rest)
    | limit + 1, level, signs, v, rest => do
      match rest with
      | sign :: behind =>
        if signs.contains (String.ofList sign) then
          let (w, rest) ← computeLevel limit (level + 1) sign behind
          let v ← combine (String.ofList sign) v w
          more limit level signs v rest
        else .ok (v, rest)
      | [] => .ok (v, [])

/-- Computes the expression that the arguments make up. -/
def calculate : Task Nat := do
  let args := match (← read).args with
    | ['-', '-'] :: args => args
    | args => args
  if args = [] then Task.misuse "missing operand".toList 2
  match computeLevel (20 * args.length + 20) 0 [] args with
  | .error message => Task.fail message 2
  | .ok (_, extra :: _) => Task.fail ("syntax error: unexpected argument ".toList ++ Quoted.plain extra) 2
  | .ok (v, []) =>
    Task.outLine v
    return if isNothing v then 1 else 0

/-! ## Checking something -/

/-- Checks the condition that some arguments make up. -/
def checkArgs (args : List Text) : Task Nat := do
  match Shell.Condition.holds (← Task.files) args with
  | .ok b => return if b then 0 else 1
  | .error message => Task.fail message 2

/-- Checks a condition. -/
def check : Task Nat := do checkArgs (← read).args

/-- Checks a condition in brackets. -/
def checkInBrackets : Task Nat := do
  let args := (← read).args
  if args.getLast? = some [']'] then checkArgs args.dropLast
  else Task.fail "missing ']'".toList 2

/-! ## Saying something -/

/-- Writes its arguments. -/
def say : Task Nat := do
  let args := (← read).args
  let rec flags : List Text → Bool × Bool × List Text
    | [] => (false, false, [])
    | arg :: rest =>
      match arg with
      | '-' :: letter :: letters =>
        if (letter :: letters).all (["n", "e", "E"].map (·.toList.headD ' ')).contains then
          let (isOpen, escapes, args) := flags rest
          (isOpen || (letter :: letters).contains 'n',
            escapes || (letter :: letters).contains 'e', args)
        else (false, false, arg :: rest)
      | _ => (false, false, arg :: rest)
  let (isOpen, escapes, words) := flags args
  if escapes then
    Task.out (Formatted.echo ((if isOpen then [['-', 'n']] else []) ++ words))
  else Task.out (Text.join [' '] words ++ (if isOpen then [] else ['\n']))
  return 0

/-- Writes its arguments in a format. -/
def sayFormatted : Task Nat := do
  let args := match (← read).args with
    | ['-', '-'] :: args => args
    | args => args
  match args with
  | [] => Task.misuse "missing operand".toList 1
  | format :: args =>
    let (s, faults) := Formatted.write format args
    Task.out s
    for fault in faults do
      Task.complain (match fault with
        | .noNumber s => Quoted.always s ++ ": expected a numeric value".toList
        | .restBehind s => Quoted.always s ++ ": value not completely converted".toList
        | .outOfRange s => Quoted.always s ++ ": Numerical result out of range".toList
        | .noLetter => "%: invalid conversion specification".toList
        | .badDirective s => s ++ ": invalid conversion specification".toList)
    return if faults.isEmpty then 0 else 1

/-- Writes a line again and again, until its reader has enough. -/
def sayAgain : Task Nat := do
  let args := (← read).args
  let line := (if args = [] then ['y'] else Text.join [' '] args) ++ ['\n']
  Task.out (List.replicate 2048 line).flatten
  return 0

/-- Writes a fixed line. -/
def sayLine (s : String) : Task Nat := do
  Task.outLine s.toList
  return 0

/-- Writes facts about the system. -/
def systemName : Task Nat := do
  let o ← Task.usualOptions "a|all s|kernel-name n|nodename r|kernel-release v m|machine p i o"
  let facts := [("s", "Linux"), ("n", "localhost"), ("r", "6.0.0"), ("m", "x86_64"), ("o", "GNU/Linux")]
  let shown := facts.filter fun fact => o.has fact.1 || o.has "a"
  let shown := if shown = [] then ["Linux"] else shown.map (·.2)
  Task.outLine (Text.join [' '] (shown.map String.toList))
  return 0

end Tool

end ScriptBundle
