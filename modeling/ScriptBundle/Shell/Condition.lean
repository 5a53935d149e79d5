/-
# Conditions

The conditions that the commands `test` and `[` check: of files, texts and numbers.

## Main content

- `Condition.holds` checks the condition that some arguments make up.
-/
import ScriptBundle.Shell.Session

namespace ScriptBundle

namespace Shell

namespace Condition

/-- What an argument means. -/
inductive Sign where
  /-- The arguments end. -/
  | finish
  /-- A text. -/
  | operand
  /-- An operator in front of one operand. -/
  | single
  /-- An operator between two operands. -/
  | double
  /-- The opposite. -/
  | not
  /-- Both conditions. -/
  | both
  /-- One of two conditions. -/
  | either
  /-- An opening parenthesis. -/
  | opening
  /-- A closing parenthesis. -/
  | closing
  deriving DecidableEq

/-- The operators in front of one operand. -/
def singles : List String :=
  ["-r", "-w", "-x", "-e", "-f", "-d", "-c", "-b", "-p", "-u", "-g", "-k", "-s", "-t", "-z", "-n",
    "-h", "-O", "-G", "-L", "-S"]

/-- The operators between two operands. -/
def doubles : List String :=
  ["=", "!=", "<", ">", "-eq", "-ne", "-ge", "-gt", "-le", "-lt", "-nt", "-ot", "-ef"]

/-- Whether an argument is an operator between two operands. -/
def isDouble (arg : Text) : Bool := doubles.contains (String.ofList arg)

/-- What the first argument means, before those that follow it. -/
def signOf : List Text → Sign
  | [] => .finish
  | arg :: rest =>
    let name := String.ofList arg
    if singles.contains name then
      match rest with
      | [] => .operand
      | [_] => .single
      | next :: _ => if isDouble next then .operand else .single
    else if doubles.contains name then .double
    else
      match name with
      | "!" => .not
      | "-a" => .both
      | "-o" => .either
      | "(" => if rest = [] then .operand else .opening
      | ")" => .closing
      | _ => .operand

/-- Whether the file at a path can be run. -/
def isProgram (fs : FileSystem) (p : Path) : Bool :=
  match fs.locate p with
  | .ok place =>
    match fs.node? place with
    | some .directory => true
    | some _ => FileSystem.programDirectories.contains place.dropLast
    | none => false
  | .error _ => false

/-- Checks a condition of one operand. -/
def checkSingle (fs : FileSystem) (name : String) (arg : Text) : Except Text Bool :=
  let path := Task.pathOf arg
  let node? := (fs.stat path).toOption
  match name with
  | "-z" => .ok arg.isEmpty
  | "-n" => .ok !arg.isEmpty
  | "-f" => .ok (fs.isFile path)
  | "-d" => .ok (fs.isDirectory path)
  | "-x" => .ok (isProgram fs path)
  | "-c" => .ok (node? = some .nullDevice)
  | "-s" => .ok (match node? with
      | some (.file content) => !content.isEmpty
      | some .directory => true
      | _ => false)
  | "-r" | "-w" | "-e" | "-O" | "-G" => .ok node?.isSome
  | "-t" =>
    match Action.integerOf? false arg with
    | some _ => .ok false
    | none => .error ("Illegal number: ".toList ++ arg)
  | _ => .ok false

/-- The number of an operand. -/
def number (arg : Text) : Except Text Int :=
  match Action.integerOf? false arg with
  | some n => .ok n
  | none => .error ("Illegal number: ".toList ++ arg)

/-- Checks a condition of two operands. -/
def checkDouble (fs : FileSystem) (name : String) (a b : Text) : Except Text Bool := do
  let exists? (arg : Text) : Bool := (fs.stat (Task.pathOf arg)).isOk
  match name with
  | "=" => .ok (a = b)
  | "!=" => .ok (a ≠ b)
  | "<" => .ok (a < b)
  | ">" => .ok (b < a)
  | "-nt" => .ok (exists? a && !exists? b)
  | "-ot" => .ok (!exists? a && exists? b)
  | "-ef" => .ok (exists? a && exists? b &&
      (fs.locate (Task.pathOf a)).toOption = (fs.locate (Task.pathOf b)).toOption)
  | name =>
    let m ← number a
    let n ← number b
    match name with
    | "-eq" => .ok (m = n)
    | "-ne" => .ok (m ≠ n)
    | "-ge" => .ok (n ≤ m)
    | "-gt" => .ok (n < m)
    | "-le" => .ok (m ≤ n)
    | _ => .ok (m < n)

/-- Whether a condition holds, and the arguments from the last one on that belongs to it. -/
abbrev Step := Except Text (Bool × List Text)

/-- Refuses a condition at an argument. -/
def refuse {α : Type} (arg : Text) (message : String) : Except Text α :=
  .error ((if arg = [] then [] else arg ++ ": ".toList) ++ message.toList)

mutual

/-- Checks a condition without an operator around it. -/
def primary (fs : FileSystem) : Nat → Sign → List Text → Step
  | 0, _, args => .ok (false, args)
  | limit + 1, sign, args =>
    match sign, args with
    | .finish, args => .ok (false, args)
    | .opening, _ :: rest =>
      if signOf rest = .closing then .ok (false, rest)
      else do
        let (b, rest) ← either fs limit (signOf rest) rest false
        if signOf (rest.drop 1) ≠ .closing then refuse [] "closing paren expected"
        .ok (b, rest.drop 1)
    | .single, name :: rest =>
      match rest with
      | [] => refuse name "argument expected"
      | arg :: _ => do .ok (← checkSingle fs (String.ofList name) arg, rest)
    | _, a :: name :: rest =>
      if signOf (name :: rest) = .double then
        match rest with
        | [] => refuse name "argument expected"
        | b :: _ => do .ok (← checkDouble fs (String.ofList name) a b, rest)
      else .ok (!a.isEmpty, args)
    | _, [a] => .ok (!a.isEmpty, args)
    | _, [] => .ok (false, [])

/-- Checks the opposite of a condition. -/
def opposite (fs : FileSystem) : Nat → Sign → List Text → Step
  | 0, _, args => .ok (false, args)
  | limit + 1, sign, args =>
    if sign = .not then do
      let next := signOf (args.drop 1)
      let (b, rest) ← opposite fs limit next (if next = .finish then args else args.drop 1)
      .ok (!b, rest)
    else primary fs limit sign args

/-- Checks several conditions that have to hold together. -/
def both (fs : FileSystem) : Nat → Sign → List Text → Bool → Step
  | 0, _, args, b => .ok (b, args)
  | limit + 1, sign, args, b => do
    let (first, args) ← opposite fs limit sign args
    if signOf (args.drop 1) = .both then
      both fs limit (signOf (args.drop 2)) (args.drop 2) (b && first)
    else .ok (b && first, args)

/-- Checks several conditions of which one has to hold. -/
def either (fs : FileSystem) : Nat → Sign → List Text → Bool → Step
  | 0, _, args, b => .ok (b, args)
  | limit + 1, sign, args, b => do
    let (first, args) ← both fs limit sign args true
    if signOf (args.drop 1) = .either then
      either fs limit (signOf (args.drop 2)) (args.drop 2) (b || first)
    else .ok (b || first, args)

end

/-- Checks the whole condition.  A mark in front of up to three arguments asks for the opposite, and
parentheses around them may be left out. -/
def check (fs : FileSystem) : Nat → Bool → List Text → Except Text Bool
  | 0, turned, _ => .ok turned
  | limit + 1, turned, args => do
    let finish (sign : Sign) (args : List Text) : Except Text Bool := do
      let (b, rest) ← either fs (10 * args.length + 10) sign args false
      match rest with
      | arg :: _ :: _ => refuse arg "unexpected operator"
      | _ => .ok (b != turned)
    let general : Except Text Bool :=
      match args, args.getLast? with
      | ['('] :: inside, some [')'] => finish (signOf inside.dropLast) inside.dropLast
      | ['!'] :: rest, _ => check fs limit true rest
      | args, _ => finish (signOf args) args
    match args with
    | [] => .ok false
    | [_, name, _] => if isDouble name then finish .operand args else general
    | [_, _, _, _] => general
    | args => finish (signOf args) args

/-- Whether the condition that some arguments make up holds. -/
def holds (fs : FileSystem) (args : List Text) : Except Text Bool :=
  check fs (args.length + 1) false args

end Condition

end Shell

end ScriptBundle
