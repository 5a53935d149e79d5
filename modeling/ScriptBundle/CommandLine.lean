/-
# The command line

The arguments of the program, and what it answers.

## Main content

- `CommandLine.parse` reads the arguments into a request.
- `CommandLine.execute` carries a request out on a file system.
-/
import ScriptBundle.Job.Run

namespace ScriptBundle

namespace CommandLine

/-! ## Arguments -/

/-- What is wrong with the arguments. -/
inductive UsageError where
  /-- An argument is not known. -/
  | unexpected (argument : Text)
  /-- An option stands without its value. -/
  | missingValue (option : Text)
  /-- A switch stands with a value. -/
  | unneededValue (option : Text)
  /-- An option stands twice. -/
  | repeated (option : Text)
  /-- An option that is needed does not stand there. -/
  | missing (option : Text)
  deriving DecidableEq

/-- The wording of a usage error. -/
def UsageError.message : UsageError → Text
  | .unexpected argument => "unexpected argument '".toList ++ argument ++ "' found".toList
  | .missingValue option =>
    "a value is required for '".toList ++ option ++ "' but none was supplied".toList
  | .unneededValue option => "unexpected value for '".toList ++ option ++ "' found".toList
  | .repeated option =>
    "the argument '".toList ++ option ++ "' cannot be used multiple times".toList
  | .missing option =>
    "the following required arguments were not provided: ".toList ++ option

/-- What the arguments ask for. -/
inductive Request where
  /-- The list of options. -/
  | help
  /-- The name and version of the program. -/
  | version
  /-- A build. -/
  | build (job : Job)
  deriving DecidableEq

/-- The options that take a value. -/
inductive ValueOption where
  /-- Where the build starts. -/
  | root
  /-- Where the bundle goes. -/
  | out
  /-- A directory of vendor libraries; it may stand several times. -/
  | libraryDir
  /-- The command line of the compiler. -/
  | compilerCommand
  /-- Where the styles go. -/
  | styleOutput
  deriving DecidableEq

/-- The switches. -/
inductive Switch where
  /-- Templates are compiled. -/
  | compiling
  /-- More is reported while building; the results stay the same. -/
  | verbose
  deriving DecidableEq

/-- The name of an option with a value. -/
def ValueOption.name : ValueOption → Text
  | .root => "--root".toList
  | .out => "--out".toList
  | .libraryDir => "--vendor-dir".toList
  | .compilerCommand => "--template-compiler".toList
  | .styleOutput => "--css-out".toList

/-- All options with a value. -/
def ValueOption.all : List ValueOption := [.root, .out, .libraryDir, .compilerCommand, .styleOutput]

/-- The name of a switch. -/
def Switch.name : Switch → Text
  | .compiling => "--compile-templates".toList
  | .verbose => "--verbose".toList

/-- The arguments read so far. -/
structure Given where
  /-- The values of options, the last one first. -/
  values : List (ValueOption × Text) := []
  /-- The switches. -/
  switches : List Switch := []

/-- The values of an option, in the order of the arguments. -/
def Given.valuesOf (given : Given) (option : ValueOption) : List Text :=
  (given.values.filterMap fun entry => if entry.1 = option then some entry.2 else none).reverse

/-- Takes over the value of an option.  Paths may not be empty, and only vendor directories may
stand several times. -/
def Given.addValue (given : Given) (option : ValueOption) (value : Text) :
    Except UsageError Given :=
  if option ≠ .libraryDir ∧ given.valuesOf option ≠ [] then .error (.repeated option.name)
  else if option ≠ .compilerCommand ∧ value = [] then .error (.missingValue option.name)
  else .ok { given with values := (option, value) :: given.values }

/-- Takes over a switch, which may stand only once. -/
def Given.addSwitch (given : Given) (switch : Switch) : Except UsageError Given :=
  if given.switches.contains switch then .error (.repeated switch.name)
  else .ok { given with switches := switch :: given.switches }

/-- Whether an argument cannot be a value: it begins with a hyphen and has more behind it. -/
def looksLikeOption (argument : Text) : Bool := argument.head? = some '-' && argument ≠ ['-']

/-- What the letters of a short argument ask for. -/
def readLetters (given : Given) : Text → Except UsageError (Given ⊕ Request)
  | [] => .ok (.inl given)
  | 'v' :: letters => do readLetters (← given.addSwitch .verbose) letters
  | 'h' :: _ => .ok (.inr .help)
  | 'V' :: _ => .ok (.inr .version)
  | letter :: _ => .error (.unexpected ['-', letter])

/-- Splits an argument at its first equals sign. -/
def splitValue (argument : Text) : Text × Option Text :=
  match argument.span (· ≠ '=') with
  | (name, _ :: value) => (name, some value)
  | (name, []) => (name, none)

/-- The request that the given options make. -/
def Given.toRequest (given : Given) : Except UsageError Request :=
  match given.valuesOf .root, given.valuesOf .out with
  | root :: _, output :: _ =>
    let start : Job := { root := ⟨root⟩, output := ⟨output⟩ }
    let dirs := (given.valuesOf .libraryDir).map Path.mk
    .ok (.build { start with
      libraryDirs := if dirs = [] then start.libraryDirs else dirs
      compiling := given.switches.contains .compiling
      compilerCommand := (given.valuesOf .compilerCommand).head?.getD start.compilerCommand
      styleOutput := (given.valuesOf .styleOutput).head?.map Path.mk })
  | [], _ => .error (.missing (ValueOption.name .root))
  | _, [] => .error (.missing (ValueOption.name .out))

/-- Reads arguments behind those that are given already. -/
def parseFrom (given : Given) : List Text → Except UsageError Request
  | [] => given.toRequest
  | argument :: arguments =>
    let (name, attached) := splitValue argument
    match ValueOption.all.find? (·.name = name) with
    | some option =>
      match attached, arguments with
      | some value, arguments => do parseFrom (← given.addValue option value) arguments
      | none, value :: arguments => do
        if looksLikeOption value then .error (.missingValue name)
        else parseFrom (← given.addValue option value) arguments
      | none, [] => .error (.missingValue name)
    | none =>
      match [Switch.compiling, Switch.verbose].find? (·.name = name) with
      | some switch => do
        if attached.isSome then .error (.unneededValue name)
        else parseFrom (← given.addSwitch switch) arguments
      | none =>
        if argument = "--help".toList then .ok .help
        else if argument = "--version".toList then .ok .version
        else if argument = ['-', '-'] then
          match arguments with
          | [] => given.toRequest
          | positional :: _ => .error (.unexpected positional)
        else
          match argument with
          | '-' :: letter :: letters => do
            if letter = '-' then .error (.unexpected argument)
            else
              match ← readLetters given (letter :: letters) with
              | .inl given => parseFrom given arguments
              | .inr request => .ok request
          | argument => .error (.unexpected argument)

/-- Reads the arguments of the program. -/
def parse (arguments : List Text) : Except UsageError Request := parseFrom {} arguments

/-! ## Answers -/

/-- The name of the program with its version. -/
def versionText : Text := "jpack 0.1.0\n".toList

/-- The lines that explain the options. -/
def helpLines : List String := [
  "jpack - packs require()-linked scripts and components into one bundle",
  "",
  "Usage: jpack [OPTIONS] --root <PATH> --out <FILE>",
  "",
  "Options:",
  "      --root <PATH>              Root source file or directory",
  "      --out <FILE>               Bundle file to write",
  "      --vendor-dir <DIR>         Directory of pre-built vendor libraries (repeatable)",
  "      --compile-templates        Compile component templates into render functions",
  "      --template-compiler <CMD>  Command that compiles a template read from stdin [default: \"node template-compiler.js\"]",
  "      --css-out <FILE>           Write collected component styles to this file",
  "  -v, --verbose                  Enable verbose output",
  "  -h, --help                     Print help",
  "  -V, --version                  Print version"]

/-- The text that explains the options. -/
def helpText : Text := helpLines.flatMap fun line => line.toList ++ ['\n']

/-- How the program ends. -/
structure Outcome where
  /-- Zero for success, one for a build that failed, two for wrong arguments. -/
  exitCode : Nat
  /-- What it writes. -/
  stdout : Text := []
  /-- Why a build failed. -/
  failure : Option Text := none
  /-- What is wrong with the arguments. -/
  usage : Option Text := none

/-- The report of a failed build: the root, the error and the errors behind it. -/
def failureText (root : Path) (error : BuildError) : Text :=
  "failed to bundle ".toList ++ root.text ++ ": ".toList ++ error.report

/-- Runs the program with its arguments. -/
def execute (fs : FileSystem) (arguments : List Text) : Outcome × FileSystem :=
  match parse arguments with
  | .error error => ({ exitCode := 2, usage := some error.message }, fs)
  | .ok .help => ({ exitCode := 0, stdout := helpText }, fs)
  | .ok .version => ({ exitCode := 0, stdout := versionText }, fs)
  | .ok (.build job) =>
    match job.run fs with
    | (.ok _, files) => ({ exitCode := 0 }, files)
    | (.error error, files) =>
      ({ exitCode := 1, failure := some (failureText job.root error) }, files)

/-! ## The files that a call can see -/

/-- How many directories above the working directory a path begins. -/
def climb (p : Path) : Nat :=
  (p.folded.components.takeWhile (· = .parent)).length

/-- How many directories above the working directory any argument begins.  The value that is attached
to an option counts like an argument of its own. -/
def climbOf (arguments : List Text) : Nat :=
  let paths := arguments.map fun argument => ((splitValue argument).2).getD argument
  paths.foldl (fun most path => max most (climb ⟨path⟩)) 0

/-- The files of a later file system that are not the same in an earlier one, in the order in which
they were written. -/
def changedFiles (before after : FileSystem) : List (Location × Bytes) :=
  after.nodes.reverse.filterMap fun (place, node) =>
    match node with
    | .file content => if before.node? place = some node then none else some (place, content)
    | _ => none

end CommandLine

end ScriptBundle
