/-
# Tasks

What a program does while it runs: it knows its arguments and its handles, works on files and
streams, may start other programs, and ends with a status.

## Main content

- `Process` is what a running program knows, and `Task` is what it does.
- `Task.out` and `Task.complain` write, `Task.input` and `Task.contentOf` read.
-/
import ScriptBundle.Process.World

namespace ScriptBundle

/-- Starts a program with arguments, an environment and handles.  It answers with the status of the
program, or says why it cannot be started. -/
abbrev Starter :=
  Text → List Text → List (Text × Text) → Handles → StateM World (Except IoFault Nat)

/-- What a running program knows. -/
structure Process where
  /-- The name by which it was called. -/
  name : Text
  /-- Its arguments. -/
  args : List Text
  /-- Its environment: names with values. -/
  environment : List (Text × Text)
  /-- Its handles. -/
  handles : Handles
  /-- How it starts other programs. -/
  start : Starter

/-- What a program does.  It may end early with a status. -/
abbrev Task := ReaderT Process (ExceptT Nat (StateM World))

namespace Task

/-- Runs a task to its status. -/
def run (task : Task Nat) (process : Process) : StateM World Nat := do
  match ← (task process).run with
  | .ok status | .error status => return status

/-- Ends the program. -/
def quit {α : Type} (status : Nat) : Task α := throw status

/-- The stream of a handle. -/
def stream? (handle : Nat) : Task (Option Nat) := return (← read).handles.lookup handle

/-- Writes to a handle. -/
def writeTo (handle : Nat) (s : Text) : Task Unit := do
  if s ≠ [] then
    if let some n ← stream? handle then modify fun w => w.write n s

/-- Writes to the output. -/
def out (s : Text) : Task Unit := writeTo 1 s

/-- Writes a line to the output. -/
def outLine (s : Text) : Task Unit := writeTo 1 (s ++ ['\n'])

/-- Reports something under the name of the program. -/
def complain (message : Text) : Task Unit := do
  writeTo 2 ((← read).name ++ [':', ' '] ++ message ++ ['\n'])

/-- Reports something and ends the program. -/
def fail {α : Type} (message : Text) (status : Nat) : Task α := do
  complain message
  quit status

/-- Reports a wrong use of the program and ends it. -/
def misuse {α : Type} (message : Text) (status : Nat) : Task α := do
  if message ≠ [] then complain message
  writeTo 2 ("Try '".toList ++ (← read).name ++ " --help' for more information.\n".toList)
  quit status

/-- The path that an argument names. -/
def pathOf (arg : Text) : Path := ⟨Utf8.widen arg⟩

/-- The files. -/
def files : Task FileSystem := return (← get).files

/-- Reads all that is left of the input. -/
def input : Task (Except IoFault Text) := do
  match ← stream? 0 with
  | some n =>
    let w ← get
    let (content, w) := w.readAll n
    set w
    return content
  | none => return .error .badHandle

/-- The whole content of a file. -/
def fileContent (arg : Text) : Task (Except IoFault Text) := do
  return ((← files).readBytes (pathOf arg)).map Utf8.spread

/-- The content that an operand stands for: that of a file, or the input for a dash. -/
def contentOf (operand : Text) : Task (Except IoFault Text) :=
  if operand = ['-'] then input else fileContent operand

/-- Leaves the last part of the input to the next reader. -/
def giveBack (size : Nat) : Task Unit := do
  if let some n ← stream? 0 then modify fun w => w.giveBack n size

/-- Makes a change to the files, and says whether it could be made. -/
def change (f : FileSystem → Except IoFault FileSystem) : Task (Except IoFault Unit) := do
  match f (← files) with
  | .ok files =>
    modify fun w => { w with files }
    return .ok ()
  | .error fault => return .error fault

/-- Puts a text into a file, in place of its content or behind it. -/
def writeFile (arg : Text) (appending : Bool) (s : Text) : Task (Except IoFault Unit) := do
  match (← get).openForWriting (pathOf arg) (!appending) appending false with
  | .ok (n, w) =>
    set (w.write n s)
    return .ok ()
  | .error fault => return .error fault

/-- The value of a name in the environment. -/
def setting? (name : String) : Task (Option Text) :=
  return (← read).environment.lookup name.toList

/-- Starts a program with the handles of this one. -/
def startProgram (name : Text) (args : List Text) (environment : List (Text × Text)) :
    Task (Except IoFault Nat) := do
  let process ← read
  let w ← get
  let (result, w) := (process.start name args environment process.handles).run w
  set w
  return result

/-- Starts a program that reads the given text, and gives what it writes. -/
def pipeThrough (name : Text) (args : List Text) (environment : List (Text × Text))
    (text? : Option Text) (captured : Bool) : Task (Except IoFault Nat × Text) := do
  let process ← read
  let w ← get
  let (source, w) := w.addStream { channel := .pipe (text?.getD []) }
  let (sink, w) := w.addStream { channel := .pipe [] }
  let handles := if text?.isSome then (0, source) :: process.handles else process.handles
  let handles := if captured then (1, sink) :: handles else handles
  let (result, w) := (process.start name args environment handles).run w
  set w
  return (result, (w.unread sink).toOption.getD [])

end Task

end ScriptBundle
