/-
# Settings of a session

The commands of the shell by which it is set up: options, variables, arguments, the working directory,
and what is done at the end.

## Main content

- `Setting.readFlags` takes the options of a command apart.
- `Setting.setOptions`, `Setting.markVariables`, `Setting.enter` and `Setting.trap` are commands;
  the others are small.
-/
import ScriptBundle.Shell.Field
import ScriptBundle.Shell.Session

namespace ScriptBundle

namespace Shell

namespace Setting

/-! ## Options of commands -/

/-- Takes the options of a command apart.  In the list of letters a colon stands behind those that
have values. -/
def readFlags (letters : Text) : Nat → List Text → Action (List (Char × Text) × List Text)
  | 0, args => return ([], args)
  | limit + 1, args => do
    match args with
    | ['-', '-'] :: args => return ([], args)
    | ('-' :: c :: rest) :: args =>
      let behind := letters.drop ((letters.takeWhile (· ≠ c)).length)
      match behind with
      | _ :: ':' :: _ =>
        match if rest ≠ [] then rest :: args else args with
        | value :: args =>
          let (flags, args) ← readFlags letters limit args
          return ((c, value) :: flags, args)
        | [] => Action.refuse ("No arg for -".toList ++ c :: " option".toList)
      | _ :: _ =>
        let (flags, args) ←
          readFlags letters limit (if rest = [] then args else ('-' :: rest) :: args)
        return ((c, []) :: flags, args)
      | [] => Action.refuse ("Illegal option -".toList ++ [c])
    | args => return ([], args)

/-- Takes the options of a command apart. -/
def flags (letters : String) (args : List Text) : Action (List (Char × Text) × List Text) :=
  readFlags letters.toList (args.foldl (fun n arg => n + arg.length) 1) args

/-! ## Options of the shell -/

/-- The options of the shell, with their letters. -/
def optionNames : List (String × Char) :=
  [("errexit", 'e'), ("noglob", 'f'), ("ignoreeof", 'I'), ("interactive", 'i'), ("monitor", 'm'),
    ("noexec", 'n'), ("stdin", 's'), ("xtrace", 'x'), ("verbose", 'v'), ("vi", 'V'), ("emacs", 'E'),
    ("noclobber", 'C'), ("allexport", 'a'), ("notify", 'b'), ("nounset", 'u'), ("privileged", 'p'),
    ("nolog", 'l'), ("debug", 'd')]

/-- Whether a letter is that of an option. -/
def isOptionLetter (c : Char) : Bool := "efIimnsxvVECabup".toList.contains c

/-- Shows the options of the shell, as commands or in a table. -/
def showOptions (asCommands : Bool) : Action Unit := do
  if !asCommands then Action.outLine "Current option settings".toList
  for (name, letter) in optionNames do
    let on ← Action.isOn letter
    if asCommands then
      Action.outLine ((if on then "set -o " else "set +o ").toList ++ name.toList)
    else
      let gap := List.replicate (16 - name.length) ' '
      Action.outLine (name.toList ++ gap ++ (if on then "on" else "off").toList)

/-- Sets the options of the shell that stand in front of arguments.  The answer has the arguments, and
whether something ended the options. -/
def setOptions : Nat → List Text → Action (List Text × Bool)
  | 0, args => return (args, false)
  | limit + 1, args => do
    match args with
    | ['-', '-'] :: args => return (args, true)
    | ['-'] :: args =>
      Action.setFlag 'x' false
      Action.setFlag 'v' false
      return (args, false)
    | (sign :: letters) :: args =>
      if sign ≠ '-' ∧ sign ≠ '+' then return ((sign :: letters) :: args, false)
      let mut args := args
      for c in letters do
        if c = 'o' then
          match args with
          | [] => showOptions (sign = '+')
          | name :: rest =>
            match optionNames.find? fun entry => entry.1.toList = name with
            | some (_, letter) => Action.setFlag letter (sign = '-')
            | none => Action.refuse ("Illegal option -o ".toList ++ name)
            args := rest
        else if isOptionLetter c then Action.setFlag c (sign = '-')
        else Action.refuse ("Illegal option -".toList ++ [c])
      setOptions limit args
    | args => return (args, false)

/-! ## Variables -/

/-- A text between quotes. -/
def quoted (s : Text) : Text :=
  let rec go : Nat → Text → Text
    | 0, _ => []
    | limit + 1, s =>
      let plain := s.takeWhile (· ≠ '\'')
      let rest := s.drop plain.length
      let marks := rest.takeWhile (· = '\'')
      let behind := rest.drop marks.length
      let first := ['\''] ++ plain ++ ['\'']
      if marks = [] then first
      else first ++ ['"'] ++ marks ++ ['"'] ++ (if behind = [] then [] else go limit behind)
  go (s.length + 1) s

/-- Shows variables in the order of their names. -/
def showVariables (front : Text) (test : Variable → Bool) : Action Unit := do
  let found := (← get).bindings.filter fun entry => test entry.2
  for (name, v) in found.mergeSort fun a b => !(b.1 < a.1) do
    let value := match v.value? with
      | some value => '=' :: quoted value
      | none => []
    Action.outLine (front ++ name ++ value)

/-- The name and the value of an argument that may give a value. -/
def assignmentOf (arg : Text) : Text × Option Text :=
  let name := arg.takeWhile (· ≠ '=')
  (name, (arg.drop name.length).tail?)

/-- Marks variables, after they were given values, or shows those that are marked. -/
def markVariables (word : String) (test : Variable → Bool) (mark : Variable → Variable)
    (args : List Text) : Action Nat := do
  let (given, args) ← flags "p" args
  if given ≠ [] ∨ args = [] then showVariables (word.toList ++ [' ']) test
  else
    for arg in args do
      let (name, value?) := assignmentOf arg
      if !isName name then Action.refuse (name ++ ": bad variable name".toList)
      if let some value := value? then Action.setValue name value
      let v := (← Action.binding? name).getD ⟨none, false, false⟩
      Action.putVariable name (some (mark v))
  return 0

/-- Gives variables to the function that is running. -/
def makeLocal (args : List Text) : Action Nat := do
  if (← get).frames.isEmpty then Action.refuse "not in a function".toList
  for arg in args do
    if arg = ['-'] then Action.keepFlags
    else
      let (name, value?) := assignmentOf arg
      if !isName name then Action.refuse (name ++ ": bad variable name".toList)
      Action.keepBack name
      if let some value := value? then Action.setValue name value
  return 0

/-- Takes variables or functions away. -/
def takeAway (args : List Text) : Action Nat := do
  let (given, names) ← flags "vf" args
  for name in names do
    if given.getLast?.any (·.1 = 'f') then
      modify fun session =>
        { session with functions := session.functions.filter (·.1 ≠ name) }
    else Action.unsetValue name
  return 0

/-! ## Arguments -/

/-- Sets options and arguments, or shows the variables. -/
def setUp (args : List Text) : Action Nat := do
  if args = [] then showVariables [] fun v => v.value?.isSome
  else
    let (rest, ended) ← setOptions args.length args
    if rest ≠ [] ∨ ended then
      modify fun session => { session with args := rest, optionIndex := 1, optionPlace := none }
  return 0

/-- Drops arguments from the front. -/
def shift (args : List Text) : Action Nat := do
  let count ← match args with
    | arg :: _ => Action.countOf arg
    | [] => pure 1
  let session ← get
  if session.args.length < count then Action.refuse "can't shift that many".toList
  modify fun session =>
    { session with args := session.args.drop count, optionIndex := 1, optionPlace := none }
  return 0

/-- Where the options of an argument are read on, with the number of the next argument. -/
def nextOption (list : List Text) : Action (Option (Text × Nat)) := do
  let session ← get
  let index := session.optionIndex
  let open? := session.optionPlace.bind fun place =>
    if index ≤ 1 then none else (list[index - 2]?).map (·.drop place)
  match open? with
  | some (c :: s) => return some (c :: s, index)
  | _ =>
    return match list[index - 1]? with
      | some ['-', '-'] => some ([], index + 1)
      | some ('-' :: c :: s) => some (c :: s, index + 1)
      | _ => none

/-- Reads the next option from the arguments, or from some that are given. -/
def getOption (args : List Text) : Action Nat := do
  match args with
  | letters :: name :: more =>
    let session ← get
    let list := if more = [] then session.args else more
    if more = [] ∧ list.length + 1 < session.optionIndex then
      modify fun session => { session with optionIndex := 1, optionPlace := none }
    let isQuiet := letters.head? = some ':'
    let finish (c : Char) (index : Nat) (place : Option Nat) (status : Nat) : Action Nat := do
      Action.setValue "OPTIND".toList (Text.ofNat index)
      modify fun session => { session with optionIndex := index, optionPlace := place }
      Action.setValue name [c]
      return status
    let value := "OPTARG".toList
    match ← nextOption list with
    | none => finish '?' (← get).optionIndex none 1
    | some ([], index) => finish '?' index none 1
    | some (c :: rest, index) =>
      let behind := letters.drop ((letters.takeWhile (· ≠ c)).length)
      let word := (list[index - 2]?).getD []
      let place := some (word.length - rest.length)
      if behind = [] ∨ c = ':' then
        if isQuiet then Action.setValue value [c]
        else
          Action.writeTo 2 ("Illegal option -".toList ++ [c, '\n'])
          Action.unsetValue value
        finish '?' index place 0
      else if behind.drop 1 |>.head? |> (· = some ':') then
        match rest, list[index - 1]? with
        | [], none =>
          if isQuiet then
            Action.setValue value [c]
            finish ':' index none 0
          else
            Action.writeTo 2 ("No arg for -".toList ++ c :: " option\n".toList)
            Action.unsetValue value
            finish '?' index none 0
        | [], some arg =>
          Action.setValue value arg
          finish c (index + 1) none 0
        | rest, _ =>
          Action.setValue value rest
          finish c index none 0
      else
        Action.setValue value []
        finish c index place 0
  | _ => Action.refuse "Usage: getopts optstring var [arg...]".toList

/-! ## The working directory -/

/-- The text of the working directory. -/
def workingText (fs : FileSystem) : Text := Utf8.narrow ('/' :: Text.join ['/'] fs.cwd)

/-- Shows the working directory. -/
def showDirectory (args : List Text) : Action Nat := do
  let _ ← flags "LP" args
  Action.outLine (workingText (← Action.files))
  return 0

/-- Makes another directory the working directory. -/
def enter (args : List Text) : Action Nat := do
  let (_, args) ← flags "LP" args
  let old := workingText (← Action.files)
  let target ← match args with
    | ['-'] :: _ => pure ((← Action.value? "OLDPWD".toList).getD [])
    | target :: _ => pure target
    | [] => pure ((← Action.value? "HOME".toList).getD [])
  let fs ← Action.files
  let place? := if target = [] then some fs.cwd else (fs.locate (Task.pathOf target)).toOption
  match place?.filter fun place => target = [] || fs.node? place = some .directory with
  | none => Action.refuse ("can't cd to ".toList ++ target)
  | some place =>
    let files := if target = [] then fs else { fs with cwd := place, adrift := false }
    Action.inWorld fun w => ((), { w with files })
    Action.setValue "OLDPWD".toList old true
    Action.setValue "PWD".toList (workingText files) true
    if args.head? = some ['-'] then Action.outLine (workingText files)
    return 0

/-- Shows or sets which rights new files lack. -/
def mask (args : List Text) : Action Nat := do
  let (given, args) ← flags "S" args
  match args with
  | [] =>
    let mask := (← get).mask
    let letters (n : Nat) : Text :=
      (if n / 4 % 2 = 0 then ['r'] else []) ++ (if n / 2 % 2 = 0 then ['w'] else []) ++
        (if n % 2 = 0 then ['x'] else [])
    if given = [] then
      let row := Nat.toDigits 8 mask
      Action.outLine (List.replicate (4 - row.length) '0' ++ row)
    else
      Action.outLine ("u=".toList ++ letters (mask / 64 % 8) ++ ",g=".toList ++
        letters (mask / 8 % 8) ++ ",o=".toList ++ letters (mask % 8))
  | arg :: _ =>
    if arg.all (Numeral.isDigit 8) then
      modify fun session => { session with mask := Numeral.value 8 arg % 512 }
    else if arg.head?.any Char.isDigit then Action.refuseNumber arg
  return 0

/-! ## Ends and signals -/

/-- The signals, in the order of their numbers; number zero is the end. -/
def signals : List String :=
  ["EXIT", "HUP", "INT", "QUIT", "ILL", "TRAP", "ABRT", "BUS", "FPE", "KILL", "USR1", "SEGV",
    "USR2", "PIPE", "ALRM", "TERM", "STKFLT", "CHLD", "CONT", "STOP", "TSTP", "TTIN", "TTOU", "URG",
    "XCPU", "XFSZ", "VTALRM", "PROF", "WINCH", "IO", "PWR", "SYS"]

/-- The signal of a name or number. -/
def signal? (s : Text) : Option Text :=
  match Numeral.ofRow? s with
  | some n => (signals[n]?).map String.toList
  | none => (signals.map String.toList).find? (· = s.map Char.toUpper)

/-- Says what is done at the end and at signals, or shows it. -/
def trap (args : List Text) : Action Nat := do
  let (_, args) ← flags "" args
  match args with
  | [] =>
    let traps := (← get).traps
    for name in signals do
      if let some action := traps.lookup name.toList then
        Action.outLine ("trap -- ".toList ++ quoted action ++ [' '] ++ name.toList)
    return 0
  | first :: rest =>
    let (action?, names) :=
      if rest = [] ∨ (Numeral.ofRow? first).isSome then (none, args)
      else if first = ['-'] then (none, rest)
      else (some first, rest)
    for name in names do
      match signal? name with
      | none =>
        Action.writeTo 2 ("trap: ".toList ++ name ++ ": bad trap\n".toList)
        return 1
      | some signal =>
        modify fun session =>
          let others := session.traps.filter (·.1 ≠ signal)
          { session with traps := match action? with
              | some action => (signal, action) :: others
              | none => others }
    return 0

end Setting

end Shell

end ScriptBundle
