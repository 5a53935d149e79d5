/-
# Programs

The programs that are installed, and how they are started: by a path, or by a name that is looked up
in the directories of the search path.

## Main content

- `Program.table` lists the programs with what they do; `Program.installed` is the file system in
  which they stand.
- `Program.find` finds the program that a name or path stands for.
- `Program.run` starts a program and gives it an input.
-/
import ScriptBundle.Shell.Run
import ScriptBundle.Tool.Columns
import ScriptBundle.Tool.Edit.Run
import ScriptBundle.Tool.Order
import ScriptBundle.Tool.Record.Run
import ScriptBundle.Tool.Start
import ScriptBundle.Tool.Translate
import ScriptBundle.Tool.Whole

namespace ScriptBundle

/-- What a program leaves behind. -/
structure ProgramResult where
  /-- Zero, or the number of a failure. -/
  status : Nat
  /-- What it wrote. -/
  output : Bytes
  /-- What it reported. -/
  report : Bytes
  /-- How many bytes of its input it did not read. -/
  unread : Nat
  /-- The files. -/
  files : FileSystem

namespace Program

/-- Does nothing, with a status. -/
def silent (status : Nat) : Task Nat := return status

/-- The programs that are installed. -/
def table : List (String × Task Nat) :=
  [("[", Tool.checkInBrackets), ("awk", Tool.processRecords), ("basename", Tool.lastNames),
    ("cat", Tool.concatenate), ("chmod", Tool.changeMode), ("chown", Tool.changeMode),
    ("cmp", Tool.compareFiles), ("comm", Tool.compareOrdered), ("cp", Tool.copy),
    ("cut", Tool.cut), ("dash", Shell.start), ("dirname", Tool.parents), ("echo", Tool.say),
    ("egrep", Tool.search), ("env", Tool.withEnvironment), ("expand", Tool.expandTabs),
    ("expr", Tool.calculate), ("false", silent 1), ("fgrep", Tool.search),
    ("find", Tool.walkFiles), ("fold", Tool.fold), ("grep", Tool.search), ("head", Tool.firstPart),
    ("hostname", Tool.sayLine "localhost"), ("join", Tool.join), ("ln", Tool.link),
    ("ls", Tool.list), ("mawk", Tool.processRecords), ("mkdir", Tool.makeDirectories),
    ("mv", Tool.move), ("nice", Tool.wrapping "n|adjustment:" 0), ("nl", Tool.number),
    ("nohup", Tool.wrapping "" 0), ("nproc", Tool.sayLine "1"), ("paste", Tool.paste),
    ("printenv", Tool.showEnvironment), ("printf", Tool.sayFormatted),
    ("pwd", Tool.workingDirectory), ("readlink", Tool.resolvePaths true),
    ("realpath", Tool.resolvePaths false), ("rev", Tool.reverseCharacters), ("rm", Tool.remove),
    ("rmdir", Tool.removeDirectories), ("sed", Tool.edit), ("seq", Tool.sequence),
    ("sh", Shell.start), ("sleep", silent 0), ("sort", Tool.sort),
    ("stdbuf", Tool.wrapping "i|input: o|output: e|error:" 0), ("sync", silent 0),
    ("tac", Tool.reverseLines), ("tail", Tool.lastPart), ("tee", Tool.copyAside),
    ("test", Tool.check), ("timeout", Tool.wrapping "k|kill-after: s|signal: v" 1),
    ("touch", Tool.touch), ("tr", Tool.translate), ("true", silent 0),
    ("truncate", Tool.truncate), ("uname", Tool.systemName), ("uniq", Tool.distinct),
    ("unlink", Tool.unlink), ("wc", Tool.count), ("whoami", Tool.sayLine "root"),
    ("xargs", Tool.withArguments), ("yes", Tool.sayAgain)]

/-- The content of the file of a program.  It is no text. -/
def code : Bytes := [0x7f, 0x45, 0x4c, 0x46, 0xff]

/-- The file system in which the programs stand. -/
def installed : FileSystem :=
  FileSystem.programDirectories.foldl
    (fun fs directory =>
      table.foldl (fun fs entry => fs.insert (directory ++ [entry.1.toList]) (.file code)) fs)
    FileSystem.system

/-- The directories in which programs are looked up if nothing else is said. -/
def usualPath : Text := "/usr/local/sbin:/usr/local/bin:/usr/sbin:/usr/bin:/sbin:/bin".toList

/-- The environment of a program that is started from outside. -/
def environment : List (Text × Text) :=
  [("HOME".toList, "/root".toList), ("PATH".toList, usualPath)]

/-- The program at a path. -/
def atPath (fs : FileSystem) (path : Text) : Except IoFault (Task Nat) := do
  let place ← fs.locate (Task.pathOf path)
  match fs.node? place with
  | none => .error .notFound
  | some (.file _) =>
    let name := place.getLast?.getD []
    match if FileSystem.programDirectories.contains place.dropLast
      then table.find? (·.1.toList = name) else none with
    | some (_, task) => .ok task
    | none => .error .denied
  | some _ => .error .denied

/-- The program of a name in the first directory of some that has one.  A file that cannot be run
is only reported if there is no other one. -/
def inDirectories (fs : FileSystem) (name : Text) : IoFault → List Text → Except IoFault (Task Nat)
  | fault, [] => .error fault
  | fault, directory :: rest =>
    match atPath fs (Shell.Builtin.pathIn directory name) with
    | .ok task => .ok task
    | .error .notFound | .error .notDirectory => inDirectories fs name fault rest
    | .error .denied => inDirectories fs name .denied rest
    | .error other => .error other

/-- The program that a name or path stands for. -/
def find (fs : FileSystem) (path? : Option Text) (name : Text) : Except IoFault (Task Nat) :=
  if name.contains '/' then atPath fs name
  else if name = [] then .error .notFound
  else inDirectories fs name .notFound (Text.splitWith (· = ':') (path?.getD usualPath))

/-- Starts programs, which may start others up to a depth. -/
def startWithin : Nat → Starter
  | 0, _, _, _, _ => return .error .denied
  | depth + 1, name, args, environment, handles => do
    let world ← get
    if (name :: args).any (·.contains '\x00') then return .error .zeroInArgument
    match find world.files (environment.lookup "PATH".toList) name with
    | .error fault => return .error fault
    | .ok task =>
      let status ← task.run { name, args, environment, handles, start := startWithin depth }
      modify fun after => { after with files := Shell.Runner.comeBack world.files after.files }
      return .ok status

/-- How deep programs start other programs. -/
def depthLimit : Nat := 1000

/-- Starts a program and gives it an input. -/
def run (fs : FileSystem) (program : Text) (args : List Text) (input : Bytes) :
    Except IoFault ProgramResult :=
  let streams : Array Stream :=
    #[{ channel := .pipe (Utf8.spread input) }, { channel := .pipe [] }, { channel := .pipe [] }]
  let started := startWithin depthLimit (Utf8.narrow program) (args.map Utf8.narrow) environment
    [(0, 0), (1, 1), (2, 2)]
  match started.run { files := fs, streams } with
  | (.error fault, _) => .error fault
  | (.ok status, after) =>
    let left (n : Nat) : Bytes := Utf8.gather ((after.unread n).toOption.getD [])
    .ok {
      status
      output := left 1
      report := left 2
      unread := (left 0).length
      files := after.files }

end Program

end ScriptBundle
