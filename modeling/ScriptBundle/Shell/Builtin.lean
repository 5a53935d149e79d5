/-
# Commands of the shell

The commands that the shell carries out by itself.  Some of them are special: what is wrong with them
ends the shell.

## Main content

- `Builtin` is a command of the shell, and `Builtin.plain?` finds one by its name; those that carry
  out other commands are not among them.
- `Builtin.describe` says what a name means.
-/
import ScriptBundle.Process.Formatted
import ScriptBundle.Shell.Condition
import ScriptBundle.Shell.Reader
import ScriptBundle.Shell.Setting

namespace ScriptBundle

namespace Shell

namespace Builtin

/-! ## Writing and reading -/

/-- Writes its arguments. -/
def echo (args : List Text) : Action Nat := do
  Action.out (Formatted.echo args)
  return 0

/-- Writes its arguments in a format. -/
def printf (args : List Text) : Action Nat := do
  let (_, args) ← Setting.flags "" args
  match args with
  | [] => Action.refuse "usage: printf format [arg ...]".toList
  | format :: args =>
    let (s, faults) := Formatted.write format args
    for fault in faults do Action.report fault.text
    Action.out s
    return Formatted.status faults

/-- Checks a condition. -/
def test (args : List Text) : Action Nat := do
  match Condition.holds (← Action.files) args with
  | .ok b => return if b then 0 else 1
  | .error message => Action.refuse message

/-- Checks a condition in brackets. -/
def testInBrackets (args : List Text) : Action Nat := do
  if args.getLast? = some [']'] then test args.dropLast else Action.refuse "missing ]".toList

/-- A line in progress: its glyphs, the last one first, how many characters were read, and whether it
is complete. -/
structure LineDraft where
  /-- The glyphs, the last one first. -/
  glyphs : List Glyph := []
  /-- How many characters were read. -/
  size : Nat := 0
  /-- Whether the end of the line was read. -/
  isComplete : Bool := false

/-- Reads a line from a text.  Where backslashes quote, one at the end of a line joins the next line
to it. -/
def readLine (quotes : Bool) : LineDraft → Text → LineDraft
  | d, [] => d
  | d, '\n' :: _ => { d with size := d.size + 1, isComplete := true }
  | d, '\\' :: c :: s =>
    if quotes then
      let glyphs := if c = '\n' then d.glyphs else .char c true :: d.glyphs
      readLine quotes { d with glyphs, size := d.size + 2 } s
    else readLine quotes { d with glyphs := .char '\\' false :: d.glyphs, size := d.size + 1 } (c :: s)
  | d, c :: s =>
    let dropped := c = '\x00' || (quotes && c = '\\')
    let glyphs := if dropped then d.glyphs else .char c false :: d.glyphs
    readLine quotes { d with glyphs, size := d.size + 1 } s

/-- Reads a line of the input into variables. -/
def read (args : List Text) : Action Nat := do
  let (given, names) ← Setting.flags "p:r" args
  if names = [] then Action.refuse "arg count".toList
  let session ← get
  let stream? := session.handles.lookup 0
  let content := match stream? with
    | some n => (session.world.unread n).toOption.getD []
    | none => []
  let line := readLine (given.all (·.1 ≠ 'r')) {} content
  if let some n := stream? then Action.inWorld fun w => ((), w.advance n line.size)
  let values := Field.spread (← Action.separators) names.length line.glyphs.reverse
  for (name, value) in names.zip values do Action.setValue name value
  return if line.isComplete then 0 else 1

/-! ## Looking up commands -/

/-- The directories in which programs are looked up. -/
def searchPath : Action (List Text) :=
  return Text.splitWith (· = ':') ((← Action.value? "PATH".toList).getD [])

/-- The path of a name in a directory of the search path. -/
def pathIn (directory name : Text) : Text :=
  if directory = [] then name
  else if directory.getLast? = some '/' then directory ++ name
  else directory ++ '/' :: name

/-- The file that a name stands for in the search path. -/
def findFile (name : Text) : Action (Option Text) := do
  let fs ← Action.files
  return ((← searchPath).map fun directory => pathIn directory name).find? fun path =>
    fs.isFile (Task.pathOf path)

/-- The names of all commands of the shell. -/
def names : List String :=
  [".", ":", "[", "alias", "bg", "break", "cd", "chdir", "command", "continue", "echo", "eval",
    "exec", "exit", "export", "false", "fg", "getopts", "hash", "jobs", "kill", "local", "printf",
    "pwd", "read", "readonly", "return", "set", "shift", "test", "times", "trap", "true", "type",
    "ulimit", "umask", "unalias", "unset", "wait"]

/-- Whether a command is special. -/
def isSpecial (name : String) : Bool := specialNames.contains name || name = "local"

/-- Whether a command takes values for variables as arguments. -/
def takesValues (name : String) : Bool := ["export", "readonly", "local"].contains name

/-- Says what a name means, in one line.  A short answer is the name or path by which the command is
run. -/
def describe (isLong : Bool) (name : Text) : Action Nat := do
  let session ← get
  let say (long : Text) (short : Text) : Action Nat := do
    Action.outLine (if isLong then name ++ ' ' :: long else short)
    return 0
  let word := String.ofList name
  if keywords.contains word then say "is a shell keyword".toList name
  else if (session.functions.lookup name).isSome ∧ !specialNames.contains word then
    say "is a shell function".toList name
  else if names.contains word then
    say (if isSpecial word then "is a special shell builtin" else "is a shell builtin").toList name
  else
    let found? ←
      if name.contains '/' then
        pure (if ((← Action.files).stat (Task.pathOf name)).isOk then some name else none)
      else findFile name
    match found? with
    | some path =>
      let hashed := session.seen.contains name
      if !name.contains '/' then set { session with seen := name :: session.seen }
      say ((if hashed then "is a tracked alias for " else "is ").toList ++ path) path
    | none =>
      if isLong then Action.outLine (name ++ ": not found".toList)
      return 127

/-- Says what names mean. -/
def type (args : List Text) : Action Nat := do
  let (_, args) ← Setting.flags "" args
  let mut status := 0
  for name in args do
    let found ← describe true name
    if found ≠ 0 then status := found
  return status

/-! ## Leaving -/

/-- The number of loops to leave. -/
def loopCount (args : List Text) : Action Nat := do
  match args with
  | [] => return 1
  | arg :: _ =>
    let n ← Action.countOf arg
    if n = 0 then Action.refuseNumber arg
    return n

/-- Leaves loops, or goes on with the next round. -/
def leaveLoops (again : Bool) (args : List Text) : Action Nat := do
  let count ← loopCount args
  let count := min count (← get).loops
  if count ≠ 0 then
    modify fun session =>
      { session with skip := some (if again then .round count else .loops count) }
  return 0

/-- Leaves a function or a script. -/
def giveBack (args : List Text) : Action Nat := do
  let status ← match args with
    | arg :: _ => Action.countOf arg
    | [] => pure (← get).status
  modify fun session => { session with skip := some .function }
  return status

/-- Leaves the shell. -/
def exit (args : List Text) : Action Nat := do
  if let arg :: _ := args then
    let status ← Action.countOf arg
    modify fun session => { session with status, leaveStatus := some status }
  Action.leave

/-- Waits for commands that were not waited for. -/
def wait (args : List Text) : Action Nat := do
  let jobs := (← get).jobs
  let mut status := 0
  for arg in args do
    let n ← Action.countOf arg
    status := (jobs.lookup n).getD 127
  return status

/-! ## All together -/

/-- Looks programs up. -/
def remember (args : List Text) : Action Nat := do
  let (_, args) ← Setting.flags "rv" args
  let mut status := 0
  for name in args do
    if (← findFile name).isNone && !names.contains (String.ofList name) then
      Action.report (name ++ ": not found".toList)
      status := 1
  return status

/-- The command of a name, unless it carries out other commands. -/
def plain? (name : String) : Option (List Text → Action Nat) :=
  match name with
  | ":" | "true" | "jobs" | "kill" | "alias" | "unalias" => some fun _ => return 0
  | "false" => some fun _ => return 1
  | "echo" => some echo
  | "printf" => some printf
  | "test" => some test
  | "[" => some testInBrackets
  | "read" => some read
  | "cd" | "chdir" => some Setting.enter
  | "pwd" => some Setting.showDirectory
  | "export" =>
    some (Setting.markVariables "export" (·.isExported) fun v => { v with isExported := true })
  | "readonly" =>
    some (Setting.markVariables "readonly" (·.isFixed) fun v => { v with isFixed := true })
  | "local" => some Setting.makeLocal
  | "unset" => some Setting.takeAway
  | "set" => some Setting.setUp
  | "shift" => some Setting.shift
  | "getopts" => some Setting.getOption
  | "umask" => some Setting.mask
  | "trap" => some Setting.trap
  | "type" => some type
  | "hash" => some remember
  | "break" => some (leaveLoops false)
  | "continue" => some (leaveLoops true)
  | "return" => some giveBack
  | "exit" => some exit
  | "wait" => some wait
  | "bg" | "fg" => some fun _ => Action.refuse "No current job".toList
  | "times" => some fun _ => do
    Action.out "0m0.000000s 0m0.000000s\n0m0.000000s 0m0.000000s\n".toList
    return 0
  | "ulimit" => some fun _ => do
    Action.outLine "unlimited".toList
    return 0
  | _ => none

end Builtin

end Shell

end ScriptBundle
