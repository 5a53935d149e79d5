/-
# Carrying out commands

## Main content

- `Runner` carries out the commands inside a command; `runWithin` carries out all commands up to a
  depth.
- `Runner.simple` carries out a simple command, in the order of its parts: words, redirections,
  values, and then the command itself.
- `Shell.start` is the shell as a program.
-/
import ScriptBundle.Shell.Builtin
import ScriptBundle.Shell.Redirect

namespace ScriptBundle

namespace Shell

/-- How the commands inside a command are carried out.  Where a command is part of a condition, its
failure does not end the shell. -/
structure Runner where
  /-- Carries out a command and gives its status. -/
  run : Command → Bool → Action Nat

namespace Runner

/-- Notes the status of a command. -/
def noting (status : Nat) : Action Nat := do
  modify fun session => { session with status }
  return status

/-- Ends the shell if a command failed that may not fail. -/
def checking (isTested : Bool) (action : Action Nat) : Action Nat := do
  let status ← action
  if !isTested && status ≠ 0 && (← Action.isOn 'e') then Action.leave
  return status

/-- Whether commands are skipped. -/
def isSkipping : Action Bool := return (← get).skip.isSome

/-! ## Scripts -/

/-- Carries out the commands of a script one after another. -/
def lines (inner : Runner) (isTested : Bool) : Nat → Script → Nat → Action Nat
  | 0, _, status => return status
  | limit + 1, script, status => do
    let session ← get
    let script :=
      { script with documents := session.documents, nextDocument := session.nextDocument }
    match script.next with
    | .error fault =>
      Action.atLine fault.line
      Action.refuse ("Syntax error: ".toList ++ fault.message)
    | .ok (found, after) =>
      set { session with documents := after.documents, nextDocument := after.nextDocument }
      if session.flags.contains 'v' then
        Action.writeTo 2 (script.rest.take (script.rest.length - after.rest.length))
      match found with
      | none => return status
      | some .nothing => lines inner isTested limit after status
      | some command =>
        let status ← inner.run command isTested
        if ← isSkipping then return status
        lines inner isTested limit after status

/-- Carries out the commands of a text. -/
def script (inner : Runner) (isTested : Bool) (text : Text) : Action Nat :=
  let text := text.filter (· ≠ '\x00')
  lines inner isTested (text.length + 2) { rest := text } 0

/-- What a shell does at its end.  The answer is its status. -/
def finish (inner : Runner) : Action Nat := do
  let session ← get
  match session.traps.lookup "EXIT".toList with
  | some action =>
    set { session with
      traps := session.traps.filter (·.1 ≠ "EXIT".toList)
      skip := none
      loops := 0
      leaveStatus := none }
    let _ ← Action.observe (script inner false action)
    return (← get).leaveStatus.getD session.status
  | none => return session.status

/-! ## Shells inside a shell -/

/-- The files after a shell inside this one ended: its working directory is the one from before. -/
def comeBack (before after : FileSystem) : FileSystem :=
  let isGone := before.adrift || after.node? before.cwd ≠ some .directory
  { after with cwd := before.cwd, adrift := isGone }

/-- Carries something out in a shell of its own. -/
def apart (inner : Runner) (action : Action Unit) : Action Nat := do
  let outer ← get
  set { outer with traps := outer.traps.filter (·.2 = []), jobs := [] }
  let _ ← Action.observe action
  let status ← finish inner
  let now := (← get).world
  set { outer with world := { now with files := comeBack outer.world.files now.files } }
  return status % 256

/-- Takes the output of a command, without the ends of lines at its end. -/
def take (inner : Runner) (command : Command) : Action Text := do
  match command with
  | .nothing => return []
  | command =>
    let n ← Action.openPipe []
    let status ← apart inner do
      Action.setHandle 1 (some n)
      let _ ← inner.run command false
    modify fun session => { session with outputStatus := status }
    let text := ((← get).world.unread n).toOption.getD []
    return ((text.filter (· ≠ '\x00')).reverse.dropWhile (· = '\n')).reverse

/-- Carries out commands of which each one reads what the one before writes. -/
def pipeline (inner : Runner) (isTested : Bool) : Option Nat → List Command → Action Nat
  | _, [] => return 0
  | source?, command :: rest => do
    let sink? ← if rest = [] then pure none else some <$> Action.openPipe []
    let status ← apart inner do
      if let some n := source? then Action.setHandle 0 (some n)
      if let some n := sink? then Action.setHandle 1 (some n)
      let _ ← inner.run command isTested
    if rest = [] then return status else pipeline inner isTested sink? rest

/-- Carries out a command that is not waited for.  It has no input. -/
def background (inner : Runner) (command : Command) : Action Nat := do
  let n ← Action.inWorld fun w => w.addStream { channel := .nullDevice }
  let status ← apart inner do
    Action.setHandle 0 (some n)
    let _ ← inner.run command false
  modify fun session =>
    let number := session.jobs.length + 2
    { session with jobs := (number, status) :: session.jobs }
  return 0

/-! ## Loops -/

/-- How a loop goes on after some commands. -/
inductive Course where
  /-- As usual. -/
  | on
  /-- With the next round. -/
  | again
  /-- Not at all. -/
  | out
  /-- Not at all, and neither does the function. -/
  | off
  deriving DecidableEq

/-- How a loop goes on. -/
def course : Action Course := do
  let session ← get
  match session.skip with
  | none => return .on
  | some .function => return .off
  | some (.loops count) =>
    set { session with skip := if count ≤ 1 then none else some (.loops (count - 1)) }
    return .out
  | some (.round count) =>
    set { session with skip := if count ≤ 1 then none else some (.round (count - 1)) }
    return if count ≤ 1 then .again else .out

/-- How often a loop goes around. -/
def roundLimit : Nat := 100000000

/-- Goes around in a loop with a condition. -/
def rounds (inner : Runner) (isUntil isTested : Bool) (condition body : Command) :
    Nat → Nat → Action Nat
  | 0, status => return status
  | limit + 1, status => do
    let found ← inner.run condition true
    match ← course with
    | .off => return found
    | .out => return status
    | .again => rounds inner isUntil isTested condition body limit status
    | .on =>
      if (found = 0) = isUntil then return status
      let status ← inner.run body isTested
      let next ← course
      if next = .on ∨ next = .again then rounds inner isUntil isTested condition body limit status
      else return status

/-- Goes around in a loop over texts. -/
def each (inner : Runner) (isTested : Bool) (name : Text) (body : Command) :
    List Text → Nat → Action Nat
  | [], status => return status
  | value :: values, _ => do
    Action.setValue name value
    let status ← inner.run body isTested
    let next ← course
    if next = .on ∨ next = .again then each inner isTested name body values status else return status

/-- Carries out a loop. -/
def looping (action : Action Nat) : Action Nat := do
  modify fun session => { session with loops := session.loops + 1 }
  Action.ensure action (modify fun session => { session with loops := session.loops - 1 })

/-! ## Simple commands -/

/-- What the name of a command stands for. -/
inductive Target where
  /-- A command of the shell. -/
  | builtin (name : String)
  /-- A function. -/
  | function (body : Command)
  /-- A program. -/
  | program

/-- What a name stands for.  Special commands go before functions, and functions before other
commands. -/
def targetOf (skipsFunctions : Bool) (name : Text) : Action Target := do
  let word := String.ofList name
  if Builtin.isSpecial word then return .builtin word
  let functions := (← get).functions
  match if skipsFunctions then none else functions.lookup name with
  | some body => return .function body
  | none => return if Builtin.names.contains word then .builtin word else .program

/-- What stands behind the name and the options of `command`, unless they ask what a name means. -/
def commandArgs : List Text → Option (List Text)
  | ['-', '-'] :: args => if args = [] then none else some args
  | ('-' :: c :: letters) :: args =>
    if (c :: letters).all (· = 'p') then commandArgs args else none
  | [] => none
  | args => some args

/-- A command with its arguments. -/
structure Call where
  /-- What its name stands for. -/
  target : Target
  /-- Its name. -/
  name : Text
  /-- Its arguments. -/
  args : List Text
  /-- Whether what is wrong with it ends the shell. -/
  isSpecial : Bool

/-- The command that some words make up. -/
def callOf : List Text → Action (Option Call)
  | [] => return none
  | name :: args => do
    let target ← targetOf false name
    let isSpecial := match target with
      | .builtin word => Builtin.isSpecial word
      | _ => false
    match target, commandArgs args with
    | .builtin "command", some (name :: args) =>
      return some { target := ← targetOf true name, name, args, isSpecial }
    | target, _ => return some { target, name, args, isSpecial }

/-- Expands the words of a command.  For some commands, values for variables are no usual words. -/
def expandWords (take : Taker) : List Word → List Text → Action (List Text)
  | [], found => return found
  | word :: words, found => do
    let takesValues := match found with
      | name :: args =>
        let name := if name = "command".toList then args.headD [] else name
        Builtin.takesValues (String.ofList name)
      | [] => false
    let fields ← match if takesValues then Reader.assignment? word else none with
      | some (name, value) => do
        pure [name ++ '=' :: (← Action.expandValue take value)]
      | none => Action.expandFields take word
    expandWords take words (found ++ fields)

/-- Why a program cannot be run, and with which status. -/
def startFault : IoFault → Text × Nat
  | .notFound | .notDirectory => ("not found".toList, 127)
  | .nameTooLong => (IoFault.nameTooLong.words, 127)
  | fault => (fault.words, 126)

/-- Starts a program.  The answer has its status, and whether it could be started. -/
def startProgram (name : Text) (args : List Text) : Action (Nat × Bool) := do
  if name = [] then
    Action.report ": Permission denied".toList
    return (127, false)
  let environment ← Action.environment
  let handles := (← get).handles
  let starter ← read
  match ← Action.inWorld (starter name args environment handles).run with
  | .ok status =>
    modify fun session =>
      if session.seen.contains name then session else { session with seen := name :: session.seen }
    return (status, true)
  | .error fault =>
    let (words, status) := startFault fault
    Action.report (name ++ ": ".toList ++ words)
    return (status, false)

/-- Calls a function. -/
def callFunction (inner : Runner) (body : Command) (args : List Text) (isTested : Bool) :
    Action Nat := do
  let before ← get
  set { before with args, loops := 0, optionIndex := 1, optionPlace := none }
  Action.ensure (do let _ ← inner.run body isTested) do
    modify fun session =>
      { session with
        args := before.args
        loops := before.loops
        optionIndex := before.optionIndex
        optionPlace := before.optionPlace
        skip := if session.skip = some .function then none else session.skip }
  return (← get).status

/-- Carries out the commands of a file. -/
def source (inner : Runner) (args : List Text) : Action Nat := do
  let (_, args) ← Setting.flags "" args
  match args with
  | [] => return 0
  | name :: _ =>
    let path ←
      if name.contains '/' then pure name
      else
        match ← Builtin.findFile name with
        | some path => pure path
        | none => Action.refuse (name ++ ": not found".toList)
    let n ← Action.openTarget "<" path
    let content := ((← get).world.unread n).toOption.getD []
    modify fun session => { session with command := some path }
    let status ← script inner false content
    modify fun session =>
      { session with skip := if session.skip = some .function then none else session.skip }
    return status

/-- Lets a program take the place of the shell. -/
def replace (args : List Text) : Action Nat := do
  let (_, args) ← Setting.flags "" args
  match args with
  | [] => return 0
  | name :: args =>
    let (status, started) ← startProgram name args
    modify fun session =>
      { session with
        status
        traps := if started then [] else session.traps }
    Action.leave

/-- Says what the first of some names means. -/
def describeFirst (args : List Text) : Action Nat := do
  let (given, args) ← Setting.flags "pvV" args
  match given.filter (·.1 ≠ 'p'), args with
  | asked :: _, name :: _ => Builtin.describe (asked.1 = 'V') name
  | _, _ => return 0

/-- Carries out a command of the shell by its name. -/
def builtin (inner : Runner) (name : String) (args : List Text) (isTested : Bool) : Action Nat :=
  match name with
  | "eval" => script inner isTested (Text.join [' '] args)
  | "." => source inner args
  | "exec" => replace args
  | "command" => describeFirst args
  | name =>
    match Builtin.plain? name with
    | some run => run args
    | none => return 0

/-- Carries out a command of the shell.  What is wrong with it ends the shell only if it is
special. -/
def callBuiltin (inner : Runner) (call : Call) (name : String) (isTested : Bool) : Action Nat := do
  let before := (← get).command
  modify fun session => { session with command := some call.name, writeFailed := false }
  let result ← Action.observe (builtin inner name call.args isTested)
  let failed := (← get).writeFailed
  if failed then
    modify fun session => { session with command := some call.name, writeFailed := false }
    Action.report (call.name ++ ": I/O error".toList)
  modify fun session => { session with command := before }
  match result with
  | .ok status => noting (if failed then status ||| 1 else status)
  | .error escape =>
    if escape = .fault ∧ !call.isSpecial then return (← get).status else throw escape

/-- Carries out a command with its arguments. -/
def call (inner : Runner) (call : Call) (isTested : Bool) : Action Nat := do
  match call.target with
  | .builtin name => callBuiltin inner call name isTested
  | .function body => callFunction inner body call.args isTested
  | .program => do
    let (status, _) ← startProgram call.name call.args
    noting status

/-- Gives variables the values of a command.  The answer has the values. -/
def assign (inner : Runner) (isLocal exports : Bool) (assignments : List (Text × Word)) :
    Action (List Text) :=
  assignments.mapM fun (name, word) => do
    let value ← Action.expandValue (take inner) word
    if isLocal then Action.keepBack name
    Action.setValue name value (isLocal || exports)
    return name ++ '=' :: value

/-- Shows a command before it is carried out. -/
def trace (stream? : Option Nat) (words : List Text) : Action Unit := do
  if ← Action.isOn 'x' then
    let front := (← Action.value? "PS4".toList).getD []
    if let some n := stream? then
      Action.inWorld fun w => ((), w.write n (front ++ Text.join [' '] words ++ ['\n']))

/-- Carries out a simple command. -/
def simple (inner : Runner) (line : Nat) (assignments : List (Text × Word)) (words : List Word)
    (redirections : List Redirection) (isTested : Bool) : Action Nat := do
  Action.atLine line
  modify fun session => { session with outputStatus := 0 }
  let words ← expandWords (take inner) words []
  let found ← callOf words
  let isSpecial := found.any (·.isSpecial)
  let replaces := match found with
    | some { target := .builtin "exec", .. } => true
    | _ => false
  let isLocal := found.isSome && !isSpecial
  if isLocal then Action.pushFrame
  Action.ensure
    (do
      let targets ← Action.expandTargets (take inner) redirections
      let before := (← get).handles
      if !(← Action.redirect (take inner) targets) then
        let status ← noting 2
        if isSpecial then throw .fault
        return status
      Action.ensure
        (do
          let values ← assign inner isLocal (replaces && 1 < words.length) assignments
          trace (before.lookup 2) (values ++ words)
          match found with
          | some found => call inner found isTested
          | none => noting (← get).outputStatus)
        (if replaces then return () else Action.restoreHandles (targets.map (·.1)) before))
    (if isLocal then Action.popFrame else return ())

/-! ## All commands -/

/-- Whether one of some wildcards fits a text. -/
def fitsAny (inner : Runner) (subject : Text) : List Word → Action Bool
  | [] => return false
  | word :: words => do
    let form ← Action.expandForm (take inner) word
    if (Pattern.ofWildcard ['!'] form).fits false subject then return true
    else fitsAny inner subject words

/-- Carries out the clause that a text chooses. -/
def choose (inner : Runner) (isTested : Bool) (subject : Text) :
    List (List Word × Command) → Action Nat
  | [] => return 0
  | (words, body) :: clauses => do
    if ← fitsAny inner subject words then
      match body with
      | .nothing => return 0
      | body => inner.run body isTested
    else choose inner isTested subject clauses

/-- Carries out a command with its redirections. -/
def redirected (inner : Runner) (redirections : List Redirection) (body : Action Nat) :
    Action Nat := do
  let targets ← Action.expandTargets (take inner) redirections
  let before := (← get).handles
  if !(← Action.redirect (take inner) targets) then return 2
  Action.ensure body (Action.restoreHandles (targets.map (·.1)) before)

/-- Carries out a command. -/
def command (inner : Runner) (found : Command) (isTested : Bool) : Action Nat := do
  if ← Action.isOn 'n' then return 0
  match found with
  | .nothing => return 0
  | .simple line assignments words redirections =>
    checking isTested do
      noting (← simple inner line assignments words redirections isTested)
  | .sequence first second =>
    let status ← inner.run first isTested
    if ← isSkipping then return status
    noting (← inner.run second isTested)
  | .ifOk first second =>
    let status ← inner.run first true
    if status ≠ 0 || (← isSkipping) then return status
    noting (← inner.run second isTested)
  | .ifFailed first second =>
    let status ← inner.run first true
    if status = 0 || (← isSkipping) then return status
    noting (← inner.run second isTested)
  | .negated body =>
    let status ← inner.run body true
    noting (if status = 0 then 1 else 0)
  | .pipeline commands => checking isTested do noting (← pipeline inner isTested none commands)
  | .background body => noting (← background inner body)
  | .branch condition first second =>
    let status ← inner.run condition true
    if ← isSkipping then return status
    if status = 0 then noting (← inner.run first isTested)
    else
      match second with
      | .nothing => noting 0
      | second => noting (← inner.run second isTested)
  | .loop isUntil condition body =>
    noting (← looping (rounds inner isUntil isTested condition body roundLimit 0))
  | .forEach line name words body =>
    Action.atLine line
    let values ← match words with
      | some words => do
        pure (← words.mapM fun word => Action.expandFields (take inner) word).flatten
      | none => pure (← get).args
    noting (← looping (each inner isTested name body values 0))
  | .choose line subject clauses =>
    Action.atLine line
    let subject ← Action.expandText (take inner) subject
    noting (← choose inner isTested subject clauses)
  | .subshell line body redirections =>
    checking isTested do
      Action.atLine line
      let targets ← Action.expandTargets (take inner) redirections
      noting (← apart inner do
        if ← Action.redirect (take inner) targets then
          let _ ← inner.run body isTested
        else
          let _ ← noting 2)
  | .redirected line body redirections =>
    Action.atLine line
    noting (← redirected inner redirections (inner.run body isTested))
  | .define _ name body =>
    modify fun session =>
      { session with functions := (name, body) :: session.functions.filter (·.1 ≠ name) }
    noting 0

end Runner

/-- Carries out commands up to a depth. -/
def runWithin : Nat → Command → Bool → Action Nat
  | 0, _, _ => do
    modify fun session => { session with status := 139, traps := [] }
    Action.leave
  | depth + 1, found, isTested => Runner.command ⟨runWithin depth⟩ found isTested

/-- How deep commands are carried out. -/
def runDepth : Nat := 20000

/-- Carries out commands. -/
def runner : Runner := ⟨runWithin runDepth⟩

/-! ## The program -/

/-- Reads the arguments of the shell: its options, and whether a command or the input is read. -/
def readArgs : Nat → List Text → Bool → Bool → Action (List Text × Bool × Bool)
  | 0, args, takesCommand, takesInput => return (args, takesCommand, takesInput)
  | limit + 1, args, takesCommand, takesInput => do
    match args with
    | ['-'] :: args | ['-', '-'] :: args => return (args, takesCommand, takesInput)
    | (sign :: c :: letters) :: args =>
      if sign ≠ '-' ∧ sign ≠ '+' then
        return ((sign :: c :: letters) :: args, takesCommand, takesInput)
      let mut args := args
      let mut takesCommand := takesCommand
      for c in c :: letters do
        if c = 'c' ∧ sign = '-' then takesCommand := true
        else if c = 'l' then pure ()
        else if c = 'o' then
          match args with
          | [] => Setting.showOptions (sign = '+')
          | name :: rest =>
            match Setting.optionNames.find? fun entry => entry.1.toList = name with
            | some (_, letter) => Action.setFlag letter (sign = '-')
            | none => Action.refuse ("Illegal option -o ".toList ++ name)
            args := rest
        else if Setting.isOptionLetter c then Action.setFlag c (sign = '-')
        else Action.refuse ("Illegal option -".toList ++ [c])
      readArgs limit args takesCommand (← Action.isOn 's')
    | args => return (args, takesCommand, takesInput)

/-- What the shell does from its arguments on. -/
def main (args : List Text) : Action Unit := do
  let (args, takesCommand, takesInput) ← readArgs (args.length + 1) args false false
  if takesCommand then
    match args with
    | [] => Action.refuse "-c requires an argument".toList
    | text :: args =>
      if let name :: args := args then
        modify fun session => { session with name, args }
      let _ ← Runner.script runner false text
  else
    match takesInput, args with
    | false, file :: args =>
      let n ← Action.openTarget "<" file
      let content := ((← get).world.unread n).toOption.getD []
      modify fun session => { session with name := file, args }
      let _ ← Runner.script runner false content
    | _, args =>
      Action.setFlag 's' true
      modify fun session => { session with args }
      if let some n := (← get).handles.lookup 0 then
        let content ← Action.inWorld fun w => w.readAll n
        let _ ← Runner.script runner false (content.toOption.getD [])

/-- The variables of a shell that begins. -/
def firstVariables (process : Process) (fs : FileSystem) : List (Text × Variable) :=
  let given := process.environment.filterMap fun (name, value) =>
    if isName name && !(["IFS", "OPTIND", "PS4", "PWD"].contains (String.ofList name))
    then some (name, { value? := some value, isExported := true }) else none
  let own : List (String × Text) :=
    [("IFS", " \t\n".toList), ("OPTIND", ['1']), ("PS4", "+ ".toList), ("PPID", ['1'])]
  let isExported := process.environment.any (·.1 = "PWD".toList)
  given ++ (own.map fun (name, value) => (name.toList, { value? := some value })) ++
    [("PWD".toList, { value? := some (Setting.workingText fs), isExported })]

/-- The shell. -/
def start : Task Nat := do
  let process ← read
  let world ← get
  let session : Session :=
    { world
      name := process.name
      bindings := firstVariables process world.files
      handles := process.handles }
  let action : Action Nat := do
    let _ ← Action.observe (main process.args)
    Runner.finish runner
  let (result, after) := ((action process.start).run).run session
  set after.world
  return match result with
    | .ok status => status % 256
    | .error _ => after.status % 256

end Shell

end ScriptBundle
