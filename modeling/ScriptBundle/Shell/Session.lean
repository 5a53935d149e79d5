/-
# Sessions of the shell

What a running shell knows: its variables, arguments, functions and handles, the status of the last
command, and what is to be skipped.

## Main content

- `Session` is the state of a shell, and `Action` is what a shell does.
- `Action.report` and `Action.refuse` report what is wrong, under the name of the shell and the line.
- `Action.value?` and `Action.setValue` look at variables and set them.
-/
import ScriptBundle.Numeral.Basic
import ScriptBundle.Process.Task
import ScriptBundle.Shell.Command

namespace ScriptBundle

namespace Shell

/-- A variable. -/
structure Variable where
  /-- Its value, if it has one. -/
  value? : Option Text
  /-- Whether programs see it. -/
  isExported : Bool := false
  /-- Whether it keeps its value. -/
  isFixed : Bool := false

/-- Which commands are skipped. -/
inductive Skip where
  /-- All commands up to the end of a number of loops. -/
  | loops (count : Nat)
  /-- All commands up to the next round, of the last of a number of loops. -/
  | round (count : Nat)
  /-- All commands up to the end of the function, or of the script. -/
  | function
  deriving DecidableEq

/-- Why a shell ends early. -/
inductive Escape where
  /-- It was told to. -/
  | leave
  /-- Something is wrong. -/
  | fault
  deriving DecidableEq

/-- What comes back when a command ends. -/
structure Frame where
  /-- The variables, by their names. -/
  bindings : List (Text × Option Variable) := []
  /-- The options that were on, if they come back. -/
  flags? : Option (List Char) := none

/-- The state of a shell. -/
structure Session where
  /-- The files and streams. -/
  world : World
  /-- The name of the shell in reports. -/
  name : Text
  /-- The arguments. -/
  args : List Text := []
  /-- The variables. -/
  bindings : List (Text × Variable) := []
  /-- The functions. -/
  functions : List (Text × Command) := []
  /-- What comes back when a command ends, for each command that is running. -/
  frames : List Frame := []
  /-- The handles. -/
  handles : Handles
  /-- The status of the last command. -/
  status : Nat := 0
  /-- The status of the last command whose output was taken. -/
  outputStatus : Nat := 0
  /-- The line that is carried out. -/
  line : Nat := 0
  /-- The command in whose name things are reported, if any. -/
  command : Option Text := none
  /-- The letters of the options that are on. -/
  flags : List Char := []
  /-- What is done at the end and at signals. -/
  traps : List (Text × Text) := []
  /-- What is skipped, if anything. -/
  skip : Option Skip := none
  /-- How many loops are running. -/
  loops : Nat := 0
  /-- The documents that were read. -/
  documents : List (Nat × Word) := []
  /-- The number of the next document. -/
  nextDocument : Nat := 0
  /-- The number of the argument that is read next for options. -/
  optionIndex : Nat := 1
  /-- The place of the next option in the argument in front of that one, if it is not finished. -/
  optionPlace : Option Nat := none
  /-- The commands that were not waited for: their numbers, with their statuses. -/
  jobs : List (Nat × Nat) := []
  /-- The rights that new files lack. -/
  mask : Nat := 18
  /-- The programs that were looked up. -/
  seen : List Text := []
  /-- The status that the command to leave was given, if any. -/
  leaveStatus : Option Nat := none
  /-- Whether the builtin that is running could not write. -/
  writeFailed : Bool := false

/-- What a shell does. -/
abbrev Action := ReaderT Starter (ExceptT Escape (StateM Session))

namespace Action

/-- Changes the files and streams. -/
def inWorld {α : Type} (f : World → α × World) : Action α := do
  let session ← get
  let (result, world) := f session.world
  set { session with world }
  return result

/-- The files. -/
def files : Action FileSystem := return (← get).world.files

/-! ## Writing -/

/-- Writes to a handle. -/
def writeTo (handle : Nat) (s : Text) : Action Unit := do
  if s ≠ [] then
    let session ← get
    match session.handles.lookup handle with
    | some n =>
      if session.world.accepts n then inWorld fun w => ((), w.write n s)
      else if handle = 1 then set { session with writeFailed := true }
    | none => if handle = 1 then set { session with writeFailed := true }

/-- Writes to the output. -/
def out (s : Text) : Action Unit := writeTo 1 s

/-- Writes a line to the output. -/
def outLine (s : Text) : Action Unit := writeTo 1 (s ++ ['\n'])

/-- Reports something. -/
def report (message : Text) : Action Unit := do
  let session ← get
  let place := session.name ++ ": ".toList ++ Text.ofNat session.line ++ ": ".toList
  let command := match session.command with
    | some command => command ++ ": ".toList
    | none => []
  writeTo 2 (place ++ command ++ message ++ ['\n'])

/-- Reports something that is wrong and gives up. -/
def refuse {α : Type} (message : Text) : Action α := do
  report message
  modify fun session => { session with status := 2 }
  throw .fault

/-- Refuses a text that is no number. -/
def refuseNumber {α : Type} (s : Text) : Action α := refuse ("Illegal number: ".toList ++ s)

/-- Ends the shell with the status of the last command. -/
def leave {α : Type} : Action α := throw .leave

/-- Notes which line is carried out. -/
def atLine (line : Nat) : Action Unit := modify fun session => { session with line }

/-! ## Options -/

/-- Whether an option is on. -/
def isOn (letter : Char) : Action Bool := return (← get).flags.contains letter

/-- Sets an option. -/
def setFlag (letter : Char) (on : Bool) : Action Unit :=
  modify fun session =>
    let others := session.flags.filter (· ≠ letter)
    { session with flags := if on then letter :: others else others }

/-! ## Numbers -/

/-- The number of a text, which may have blanks on both sides. -/
def integerOf? (base? : Bool) (s : Text) : Option Int :=
  match Numeral.readInteger base? s with
  | some (n, rest) =>
    if n < Numeral.least ∨ Numeral.greatest < n then none
    else if rest.all Numeral.isBlank then some n
    else none
  | none => none

/-- The number that a text is. -/
def integerOf (s : Text) : Action Int :=
  match integerOf? false s with
  | some n => return n
  | none => refuseNumber s

/-- The count that a text is. -/
def countOf (s : Text) : Action Nat := do
  let n ← integerOf s
  if n < 0 ∨ Nat.pow 2 31 ≤ n then refuseNumber s
  return n.toNat

/-! ## Variables -/

/-- A variable. -/
def binding? (name : Text) : Action (Option Variable) :=
  return (← get).bindings.lookup name

/-- Puts a variable in place of another one. -/
def putVariable (name : Text) (v : Option Variable) : Action Unit :=
  modify fun session =>
    let others := session.bindings.filter (·.1 ≠ name)
    { session with
      bindings := match v with
        | some v => others ++ [(name, v)]
        | none => others }

/-- The value of a variable. -/
def value? (name : Text) : Action (Option Text) := return (← binding? name).bind (·.value?)

/-- Sets a variable. -/
def setValue (name value : Text) (exports : Bool := false) : Action Unit := do
  if !isName name then refuse (name ++ ": bad variable name".toList)
  let old := (← binding? name).getD ⟨none, false, false⟩
  if old.isFixed then refuse (name ++ ": is read only".toList)
  let exports := exports || old.isExported || (← isOn 'a')
  putVariable name (some { old with value? := some value, isExported := exports })
  if name = "OPTIND".toList then
    let index := (integerOf? false value).getD 1
    modify fun session =>
      { session with optionIndex := max index.toNat 1, optionPlace := none }

/-- Takes the value of a variable away. -/
def unsetValue (name : Text) : Action Unit := do
  if !isName name then refuse (name ++ ": bad variable name".toList)
  match ← binding? name with
  | none => return ()
  | some v =>
    if v.isFixed then refuse (name ++ ": is read only".toList)
    putVariable name none

/-- Lets a variable come back when the command that is running ends. -/
def keepBack (name : Text) : Action Unit :=
  modify fun session =>
    match session.frames with
    | [] => session
    | frame :: frames =>
      if frame.bindings.any (·.1 = name) then session
      else
        let kept := (name, session.bindings.lookup name) :: frame.bindings
        { session with frames := { frame with bindings := kept } :: frames }

/-- Lets the options that are on come back when the command that is running ends. -/
def keepFlags : Action Unit :=
  modify fun session =>
    match session.frames with
    | [] => session
    | frame :: frames =>
      let flags := frame.flags?.getD session.flags
      { session with frames := { frame with flags? := some flags } :: frames }

/-- Begins a command that may have variables of its own. -/
def pushFrame : Action Unit :=
  modify fun session => { session with frames := {} :: session.frames }

/-- Ends a command that may have variables of its own. -/
def popFrame : Action Unit := do
  let session ← get
  let frame := session.frames.headD {}
  set { session with
    frames := session.frames.tail
    flags := frame.flags?.getD session.flags }
  for (name, old) in frame.bindings do putVariable name old

/-- The variables that programs see. -/
def environment : Action (List (Text × Text)) :=
  return (← get).bindings.filterMap fun (name, v) =>
    if v.isExported then v.value?.map fun value => (name, value) else none

/-- The characters that separate fields. -/
def separators : Action Text := return (← value? "IFS".toList).getD " \t\n".toList

end Action

end Shell

end ScriptBundle
