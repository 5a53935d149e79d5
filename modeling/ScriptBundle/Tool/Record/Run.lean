/-
# Running record scripts

Carries the rules of a script out: before all records, for each record, and behind all records.

## Main content

- `RecordState` is what a running script keeps.
- `RecordRun.evalAt` computes an expression and `RecordRun.execAt` carries a statement out.
- `Tool.processRecords` is the tool.
-/
import ScriptBundle.Process.Options
import ScriptBundle.Tool.Record.Reader
import ScriptBundle.Tool.Record.Value

namespace ScriptBundle

/-! ## State -/

/-- What a name stands for. -/
inductive RecordSlot where
  /-- A value. -/
  | value (v : RecordValue)
  /-- An array, by its number. -/
  | array (n : Nat)
  /-- Nothing yet; should it become an array, it has this number. -/
  | unset (n : Nat)

/-- Where output is written to. -/
inductive RecordWriter where
  /-- A file that was opened. -/
  | file
  /-- A command, with what it is going to read. -/
  | command (text : Text)

/-- What a running script keeps. -/
structure RecordState where
  /-- The script. -/
  script : RecordScript
  /-- What names stand for. -/
  globals : List (Text × RecordSlot) := []
  /-- What the names of the running function stand for. -/
  locals : List (Text × RecordSlot) := []
  /-- The arrays: keys with values, the newest first. -/
  arrays : Array (List (Text × RecordValue)) := #[]
  /-- The record. -/
  record : Text := []
  /-- Its fields. -/
  fields : List RecordValue := []
  /-- What is left of the file that is read. -/
  input : Option Text := none
  /-- The number of the next argument. -/
  nextArg : Nat := 1
  /-- Whether some argument was a file. -/
  usedFile : Bool := false
  /-- What is left of other files and of the outputs of commands. -/
  readers : List (Text × Text) := []
  /-- Where output was written to. -/
  writers : List (Text × RecordWriter) := []
  /-- The ranges of rules that are open. -/
  openRanges : List Nat := []
  /-- The state of the random numbers. -/
  seed : Nat := 1

/-- How a statement is left. -/
inductive RecordSignal where
  /-- The loop ends. -/
  | breakLoop
  /-- The round ends. -/
  | continueLoop
  /-- The record ends. -/
  | nextRecord
  /-- The file ends. -/
  | nextFile
  /-- The script ends. -/
  | exit
  /-- The function ends. -/
  | returned (v : RecordValue)

/-- What a running script does. -/
abbrev RecordRun := ExceptT RecordSignal (StateT RecordState Task)

namespace RecordRun

/-- Does something as a program. -/
def lift {α : Type} (task : Task α) : RecordRun α :=
  ExceptT.lift (StateT.lift task)

/-- Ends the script with a report. -/
def abort {α : Type} (message : Text) : RecordRun α := lift (Task.fail message 2)

/-! ## Names -/

/-- Makes an empty array. -/
def newArray : RecordRun Nat := do
  let state ← get
  set { state with arrays := state.arrays.push [] }
  return state.arrays.size

/-- Puts a slot under a name of the running function, or under a name of the script. -/
def setSlot (name : Text) (slot : RecordSlot) : RecordRun Unit :=
  modify fun state =>
    if state.locals.any (·.1 = name) then
      { state with locals := (name, slot) :: state.locals.filter (·.1 ≠ name) }
    else { state with globals := (name, slot) :: state.globals.filter (·.1 ≠ name) }

/-- What a name stands for. -/
def slot? (name : Text) : RecordRun (Option RecordSlot) := do
  let state ← get
  return (state.locals.lookup name).or (state.globals.lookup name)

/-- The array of a name. -/
def arrayOf (name : Text) : RecordRun Nat := do
  match ← slot? name with
  | some (.array n) => return n
  | some (.unset n) =>
    setSlot name (.array n)
    return n
  | some (.value _) | none =>
    let n ← newArray
    setSlot name (.array n)
    return n

/-- The value of a global name. -/
def global (name : String) : RecordRun RecordValue := do
  match (← get).globals.lookup name.toList with
  | some (.value v) => return v
  | _ => return .missing

/-- The text of a global name. -/
def globalText (name : String) : RecordRun Text := do
  let format ← match (← get).globals.lookup "CONVFMT".toList with
    | some (.value (.text s)) => pure s
    | _ => pure "%.6g".toList
  return (← global name).toText format

/-- Gives a value to a global name. -/
def setGlobal (name : String) (v : RecordValue) : RecordRun Unit :=
  modify fun state =>
    { state with
      globals := (name.toList, .value v) :: state.globals.filter (·.1 ≠ name.toList) }

/-- The text of a value. -/
def textOf (v : RecordValue) : RecordRun Text := do
  match v with
  | .number _ => return v.toText (← globalText "CONVFMT")
  | v => return v.toText []

/-! ## Fields -/

/-- The pattern of a text. -/
def patternOf (s : Text) : RecordRun Pattern := do
  match Pattern.ofText? .record s with
  | .ok pattern => return pattern
  | .error _ =>
    abort ("regular expression compile failed (".toList ++ "bad expression".toList ++ ")\n".toList ++ s)

/-- Cuts a text between the places of a pattern. -/
def cutBetween (s : Text) : Nat → List Pattern.Found → List Text
  | start, [] => [s.drop start]
  | start, found :: others =>
    (s.drop start).take (found.start - start) :: cutBetween s found.stop others

/-- Cuts a text into pieces by a separator: blanks, a character, or a pattern. -/
def cut (separator s : Text) : RecordRun (List Text) := do
  if s = [] then return []
  match separator with
  | [' '] =>
    return (Text.splitWith (fun c => c = ' ' || c = '\t' || c = '\n') s).filter (· ≠ [])
  | [] => return s.map fun c => [c]
  | [c] => return Text.splitWith (· = c) s
  | separator =>
    let pattern ← patternOf separator
    let places := (pattern.findAll false s).filter fun found => found.start ≠ found.stop
    return cutBetween s 0 places

/-- Makes a text the record. -/
def setRecord (s : Text) : RecordRun Unit := do
  let pieces ← cut (← globalText "FS") s
  let pieces := if (← globalText "RS") = [] ∧ (← globalText "FS") ≠ [' '] then
      pieces.flatMap (Text.splitWith (· = '\n')) else pieces
  modify fun state => { state with record := s, fields := pieces.map RecordValue.ofInput }

/-- Puts the record together from its fields. -/
def joinFields (fields : List RecordValue) : RecordRun Unit := do
  let texts ← fields.mapM textOf
  let separator ← globalText "OFS"
  modify fun state => { state with fields, record := Text.join separator texts }

/-- Some fields, with empty ones behind them up to a number. -/
def extend (fields : List RecordValue) (n : Nat) : List RecordValue :=
  fields ++ List.replicate (n - fields.length) .missing

/-- Gives a value to a field. -/
def setField (n : Int) (v : RecordValue) : RecordRun Unit := do
  if n < 0 then abort ("negative field index $".toList ++ Numeral.ofInt n)
  else if n = 0 then setRecord (← textOf v)
  else
    let n := n.toNat
    joinFields ((extend (← get).fields n).set (n - 1) v)

/-- The value of a field. -/
def fieldValue (n : Int) : RecordRun RecordValue := do
  if n < 0 then abort ("negative field index $".toList ++ Numeral.ofInt n)
  else
    let state ← get
    if n = 0 then return RecordValue.ofInput state.record
    else return state.fields.getD (n.toNat - 1) .missing

/-! ## Arrays -/

/-- The key that several values make up. -/
def keyOf (values : List RecordValue) : RecordRun Text := do
  let separator ← match values with
    | [_] => pure []
    | _ => globalText "SUBSEP"
  return Text.join separator (← values.mapM textOf)

/-- The value under a key.  A key that is asked for comes into the array. -/
def element (array : Nat) (key : Text) : RecordRun RecordValue := do
  let state ← get
  let entries := state.arrays.getD array []
  match entries.lookup key with
  | some v => return v
  | none =>
    set { state with arrays := state.arrays.setIfInBounds array ((key, .missing) :: entries) }
    return .missing

/-- Puts a value under a key. -/
def setElement (array : Nat) (key : Text) (v : RecordValue) : RecordRun Unit :=
  modify fun state =>
    let entries := (state.arrays.getD array []).filter (·.1 ≠ key)
    { state with arrays := state.arrays.setIfInBounds array ((key, v) :: entries) }

/-- A number that is computed from the characters of a key. -/
def mixed (key : Text) : Nat :=
  key.foldl (fun n c => ((n ^^^ c.toNat) * 16777619) % Nat.pow 2 32) 2166136261

/-- The number of shelves for a number of keys. -/
def shelves : Nat → Nat → Nat → Nat
  | 0, count, _ => count
  | limit + 1, count, size => if count * 12 < size then shelves limit (count * 2) size else count

/-- The keys of an array, shelf by shelf. -/
def keysInOrder (entries : List (Text × RecordValue)) : List Text :=
  let count := shelves 20 64 entries.length
  (entries.map (·.1)).mergeSort fun a b => mixed a % count ≤ mixed b % count

/-- Fills an array with texts under numbers from one on. -/
def fillArray (array : Nat) (pieces : List Text) : RecordRun Unit :=
  modify fun state =>
    let entries := (pieces.zipIdx 1).map fun (s, n) => (Text.ofNat n, RecordValue.ofInput s)
    { state with arrays := state.arrays.setIfInBounds array entries.reverse }

/-! ## Reading records -/

/-- Cuts the first record off a text. -/
def firstRecord (s : Text) : RecordRun (Option (Text × Text)) := do
  let byChar (c : Char) (s : Text) : Option (Text × Text) :=
    if s = [] then none
    else
      let record := s.takeWhile (· ≠ c)
      some (record, (s.drop record.length).drop 1)
  match ← globalText "RS" with
  | [] =>
    let s := s.dropWhile (· = '\n')
    if s = [] then return none
    let pattern ← patternOf "\n\n+".toList
    match pattern.find? false s 0 with
    | some found => return some (s.take found.start, s.drop found.stop)
    | none => return some (if s.getLast? = some '\n' then s.dropLast else s, [])
  | [c] => return byChar c s
  | separator =>
    if s = [] then return none
    let pattern ← patternOf separator
    match pattern.find? false s 0 with
    | some found => return some (s.take found.start, s.drop found.stop)
    | none => return some (if s.getLast? = some '\n' then s.dropLast else s, [])

/-- Gives a value to a variable, as an argument of the command line asks for. -/
def assignArgument (name value : Text) : RecordRun Unit := do
  let meant := match RecordToken.readText [] (value ++ ['"']) with
    | some (s, _) => s
    | none => value
  setGlobal (String.ofList name) (RecordValue.ofInput meant)

/-- The name and the value of an argument that gives a value. -/
def assignment? (arg : Text) : Option (Text × Text) :=
  let name := arg.takeWhile RecordToken.isNameChar
  match name, arg.drop name.length with
  | c :: _, '=' :: value => if c.isDigit then none else some (name, value)
  | _, _ => none

/-- Opens the next file of the arguments. -/
def openNext : Nat → RecordRun Bool
  | 0 => return false
  | limit + 1 => do
    let state ← get
    let count := (← global "ARGC").toReal.toUInt64.toNat
    if count ≤ state.nextArg then
      if state.usedFile then return false
      set { state with usedFile := true }
      match ← lift Task.input with
      | .ok content => modify fun state => { state with input := some content }
      | .error _ => modify fun state => { state with input := some [] }
      return true
    else
      set { state with nextArg := state.nextArg + 1 }
      let array ← arrayOf "ARGV".toList
      let arg ← match ((← get).arrays.getD array []).lookup (Text.ofNat state.nextArg) with
        | some v => textOf v
        | none => pure []
      if arg = [] then openNext limit
      else
        match assignment? arg with
        | some (name, value) =>
          assignArgument name value
          openNext limit
        | none =>
          modify fun state => { state with usedFile := true }
          match ← lift (Task.contentOf arg) with
          | .ok content =>
            modify fun state => { state with input := some content }
            setGlobal "FILENAME" (.text arg)
            setGlobal "FNR" (.number 0)
            return true
          | .error fault =>
            abort ("cannot open ".toList ++ arg ++ " (".toList ++ fault.words ++ [')'])

/-- Takes the next record of the arguments. -/
def nextRecord : Nat → RecordRun (Option Text)
  | 0 => return none
  | limit + 1 => do
    match (← get).input with
    | none => if ← openNext 1000 then nextRecord limit else return none
    | some s =>
      match ← firstRecord s with
      | some (record, rest) =>
        modify fun state => { state with input := some rest }
        setGlobal "NR" (.number ((← global "NR").toReal + 1))
        setGlobal "FNR" (.number ((← global "FNR").toReal + 1))
        return some record
      | none =>
        modify fun state => { state with input := none }
        if ← openNext 1000 then nextRecord limit else return none

/-! ## Writing -/

/-- The environment with which commands are started. -/
def runCommand (command : Text) (text? : Option Text) (captured : Bool) :
    RecordRun (Nat × Text) := do
  let environment := (← lift read).environment
  let (result, written) ← lift
    (Task.pipeThrough "sh".toList ["-c".toList, command] environment text? captured)
  match result with
  | .ok status => return (status, written)
  | .error _ => return (127, written)

/-- Writes to a sink. -/
def write (sink : RecordSink) (name s : Text) : RecordRun Unit := do
  match sink with
  | .output => lift (Task.out s)
  | .file appending _ =>
    if name = "/dev/stdout".toList ∨ name = ['-'] then lift (Task.out s)
    else if name = "/dev/stderr".toList then lift (Task.writeTo 2 s)
    else
      let isOpen := (← get).writers.any (·.1 = name)
      if !isOpen then
        modify fun state => { state with writers := state.writers ++ [(name, .file)] }
      match ← lift (Task.writeFile name (appending || isOpen) s) with
      | .ok _ => return ()
      | .error fault =>
        abort ("cannot open \"".toList ++ name ++ "\" (".toList ++ fault.words ++ ") for output".toList)
  | .command _ =>
    modify fun state =>
      if state.writers.any (·.1 = name) then
        { state with
          writers := state.writers.map fun (other, writer) =>
            match writer with
            | .command text => if other = name then (other, .command (text ++ s)) else (other, writer)
            | .file => (other, writer) }
      else { state with writers := state.writers ++ [(name, .command s)] }

/-- Closes what output was written to. -/
def closeWriter (name : Text) : RecordRun (Option Nat) := do
  let state ← get
  match state.writers.lookup name with
  | none => return none
  | some writer =>
    set { state with writers := state.writers.filter (·.1 ≠ name) }
    match writer with
    | .file => return some 0
    | .command text => return some (← runCommand name (some text) false).1

/-- Closes all that output was written to. -/
def closeAll : RecordRun Unit := do
  for (name, _) in (← get).writers do
    let _ ← closeWriter name

/-! ## Expressions -/

/-- How the parts inside an expression or statement are carried out. -/
structure Inner where
  /-- Computes an expression. -/
  eval : RecordExpr → RecordRun RecordValue
  /-- Carries a statement out. -/
  exec : RecordStatement → RecordRun Unit

/-- The value of a name. -/
def valueOf (name : Text) : RecordRun RecordValue := do
  if name = "NF".toList then return .ofNat (← get).fields.length
  match ← slot? name with
  | some (.value v) => return v
  | some (.array _) => abort ("type error in reference to ".toList ++ name)
  | _ => return .missing

/-- The remainder of a division, with the sign of the first number. -/
def remainder (x y : Float) : Float :=
  match Real.kind x, Real.kind y with
  | .finite negative n d, .finite _ m e =>
    if m = 0 then 0.0 / 0.0
    else
      let rest := (n * e) % (m * d)
      let size := Real.ofParts rest 0 / Real.ofParts (d * e) 0
      if negative then -size else size
  | .finite _ _ _, .infinite _ => x
  | _, _ => 0.0 / 0.0

/-- A power. -/
def power (x y : Float) : Float := Float.pow x y

/-- An operation on two numbers. -/
def arithmetic (operation : String) (x y : Float) : Float :=
  match operation with
  | "+" => x + y
  | "-" => x - y
  | "*" => x * y
  | "/" => x / y
  | "%" => remainder x y
  | _ => power x y

/-- The pattern that an expression stands for: a written one, or the text of its value. -/
def patternFrom (inner : Inner) (e : RecordExpr) : RecordRun Pattern := do
  match e with
  | .pattern s => patternOf s
  | e => patternOf (← textOf (← inner.eval e))

/-- Gives a value to what can have one. -/
def store (inner : Inner) (target : RecordExpr) (v : RecordValue) : RecordRun Unit := do
  match target with
  | .name name =>
    if name = "NF".toList then
      let n := (RecordFormat.wholeOf v.toReal).toNat
      joinFields ((extend (← get).fields n).take n)
    else setSlot name (.value v)
  | .element array keys =>
    let key ← keyOf (← keys.mapM inner.eval)
    setElement (← arrayOf array) key v
  | .field n => setField (RecordFormat.wholeOf (← inner.eval n).toReal) v
  | .group body =>
    match body with
    | .name name => setSlot name (.value v)
    | _ => return ()
  | _ => return ()

/-- Puts the found text in for every ampersand of a replacement that has no backslash in front. -/
def fillReplacement (found : Text) : Text → Text
  | [] => []
  | '\\' :: '&' :: s => '&' :: fillReplacement found s
  | '\\' :: '\\' :: '&' :: s => '\\' :: (found ++ fillReplacement found s)
  | '&' :: s => found ++ fillReplacement found s
  | c :: s => c :: fillReplacement found s

/-- Replaces places of a text. -/
def replaceAll (s replacement : Text) : Nat → List Pattern.Found → Text
  | start, [] => s.drop start
  | start, found :: others =>
    (s.drop start).take (found.start - start) ++ fillReplacement (found.text s) replacement ++
      replaceAll s replacement found.stop others

/-- Replaces what a pattern finds in a target. -/
def substitute (inner : Inner) (all : Bool) (args : List RecordExpr) : RecordRun RecordValue := do
  match args with
  | wanted :: replacement :: rest =>
    let pattern ← patternFrom inner wanted
    let replacement ← textOf (← inner.eval replacement)
    let target := rest.headD (.field (.number 0))
    let s ← textOf (← inner.eval target)
    let places := if all then pattern.findAll false s else (pattern.find? false s 0).toList
    if !places.isEmpty then store inner target (.text (replaceAll s replacement 0 places))
    return .ofNat places.length
  | _ => return .missing

/-- The part of a text from a position on, counted from one. -/
def part (s : Text) (start : Float) (size : Option Float) : Text :=
  let first := RecordFormat.wholeOf (start + 0.5).floor
  let stop : Int := match size with
    | some size => RecordFormat.wholeOf (start + size + 0.5).floor
    | none => s.length + 1
  let low := max first 1
  (s.drop (low - 1).toNat).take (stop - low).toNat

/-- Calls a function that is built in. -/
def builtin (inner : Inner) (name : Text) (args : List RecordExpr) : RecordRun RecordValue := do
  let value (n : Nat) : RecordRun RecordValue := inner.eval (args.getD n (.field (.number 0)))
  let real (n : Nat) : RecordRun Float := return (← value n).toReal
  let text (n : Nat) : RecordRun Text := do textOf (← value n)
  match String.ofList name with
  | "length" =>
    match args with
    | [.name array] =>
      match ← slot? array with
      | some (.array n) => return .ofNat ((← get).arrays.getD n []).length
      | _ => return .ofNat (← text 0).length
    | _ => return .ofNat (← text 0).length
  | "substr" =>
    let s ← text 0
    let start ← real 1
    let size ← if args.length = 3 then pure (some (← real 2)) else pure none
    return .text (part s start size)
  | "index" =>
    let s ← text 0
    let needle ← text 1
    let place := (Text.suffixes s).findIdx? needle.isPrefixOf
    return .ofNat (match place with
      | some n => n + 1
      | none => 0)
  | "split" =>
    let s ← text 0
    let pieces ← match args with
      | [_, _, .pattern separator] =>
        if s = [] then pure []
        else
          let pattern ← patternOf separator
          pure (cutBetween s 0 ((pattern.findAll false s).filter fun found => found.start ≠ found.stop))
      | [_, _, separator] => cut (← textOf (← inner.eval separator)) s
      | _ => cut (← globalText "FS") s
    match args.getD 1 (.number 0) with
    | .name array => fillArray (← arrayOf array) pieces
    | _ => pure ()
    return .ofNat pieces.length
  | "sub" => substitute inner false args
  | "gsub" => substitute inner true args
  | "match" =>
    let s ← text 0
    let pattern ← patternFrom inner (args.getD 1 (.text []))
    match pattern.find? false s 0 with
    | some found =>
      setGlobal "RSTART" (.ofNat (found.start + 1))
      setGlobal "RLENGTH" (.ofNat (found.stop - found.start))
      return .ofNat (found.start + 1)
    | none =>
      setGlobal "RSTART" (.number 0)
      setGlobal "RLENGTH" (.number (-1))
      return .number 0
  | "sprintf" =>
    let values ← args.mapM inner.eval
    match values with
    | format :: values =>
      let format ← textOf format
      match RecordFormat.write (← globalText "CONVFMT") (format.length + 1) format values with
      | some s => return .text s
      | none =>
        abort ("run time error: not enough arguments passed to sprintf(\"".toList ++ format ++
          "\")".toList)
    | [] => return .missing
  | "sin" => return .number (← real 0).sin
  | "cos" => return .number (← real 0).cos
  | "atan2" => return .number (Float.atan2 (← real 0) (← real 1))
  | "exp" => return .number (← real 0).exp
  | "log" => return .number (← real 0).log
  | "sqrt" => return .number (← real 0).sqrt
  | "int" =>
    let x ← real 0
    return .number (if x < 0 then x.ceil else x.floor)
  | "rand" =>
    let seed := ((← get).seed * 6364136223846793005 + 1442695040888963407) % Nat.pow 2 64
    modify fun state => { state with seed }
    return .number (Float.ofNat (seed / Nat.pow 2 33) / Float.ofNat (Nat.pow 2 31))
  | "srand" =>
    let old := (← get).seed
    let seed ← if args.isEmpty then pure 1 else pure (RecordFormat.wholeOf (← real 0)).toNat
    modify fun state => { state with seed }
    return .ofNat old
  | "tolower" => return .text ((← text 0).map Char.toLower)
  | "toupper" => return .text ((← text 0).map Char.toUpper)
  | "system" =>
    let (status, _) ← runCommand (← text 0) none false
    return .ofNat status
  | "close" =>
    let name ← text 0
    let known := (← get).readers.any (·.1 = name)
    modify fun state => { state with readers := state.readers.filter (·.1 ≠ name) }
    match ← closeWriter name with
    | some status => return .ofNat status
    | none => return .number (if known then 0 else -1)
  | _ => return .number 0

/-- Reads a record from a source, into a target if there is one. -/
def readRecord (inner : Inner) (source : RecordSource) (origin target : List RecordExpr) :
    RecordRun RecordValue := do
  match source with
  | .main =>
    match ← nextRecord 1000 with
    | none => return .number 0
    | some record =>
      match target with
      | [target] => store inner target (.ofInput record)
      | _ => setRecord record
      return .number 1
  | source =>
    let name ← textOf (← inner.eval (origin.headD (.text [])))
    let known ← match (← get).readers.lookup name with
      | some rest => pure (some rest)
      | none =>
        match source with
        | .command => pure (some (← runCommand name none true).2)
        | _ =>
          match ← lift (Task.contentOf name) with
          | .ok content => pure (some content)
          | .error _ => pure none
    match known with
    | none => return .number (-1)
    | some content =>
      let setRest (rest : Text) : RecordRun Unit := modify fun state =>
        { state with readers := (name, rest) :: state.readers.filter (·.1 ≠ name) }
      match ← firstRecord content with
      | none =>
        setRest []
        return .number 0
      | some (record, rest) =>
        setRest rest
        if let .command := source then
          setGlobal "NR" (.number ((← global "NR").toReal + 1))
        match target with
        | [target] => store inner target (.ofInput record)
        | _ => setRecord record
        return .number 1

/-- The slot of an argument.  Arrays are handed over themselves, and a name without a value too, as
it may become an array. -/
def argumentSlot (inner : Inner) (e : RecordExpr) : RecordRun RecordSlot := do
  match e with
  | .name name =>
    if name = "NF".toList then return .value (← inner.eval e)
    match ← slot? name with
    | some (.array n) => return .array n
    | some (.unset n) => return .unset n
    | some (.value v) => return .value v
    | none =>
      let n ← newArray
      setSlot name (.unset n)
      return .unset n
  | e => return .value (← inner.eval e)

/-- Calls a function of the script. -/
def call (inner : Inner) (name : Text) (args : List RecordExpr) : RecordRun RecordValue := do
  let state ← get
  match state.script.functions.find? (·.name = name) with
  | none => abort ("function ".toList ++ name ++ " never defined".toList)
  | some function =>
    let given ← args.mapM (argumentSlot inner)
    let mut locals : List (Text × RecordSlot) := []
    for (param, n) in function.params.zipIdx do
      match given[n]? with
      | some slot => locals := locals ++ [(param, slot)]
      | none => locals := locals ++ [(param, .unset (← newArray))]
    let outside := (← get).locals
    modify fun state => { state with locals }
    let result ← tryCatch
      (do
        inner.exec function.body
        pure RecordValue.missing)
      (fun signal =>
        match signal with
        | .returned v => pure v
        | signal => do
          modify fun state => { state with locals := outside }
          throw signal)
    modify fun state => { state with locals := outside }
    -- A name that was handed over without a value is an array now if its array was used.
    for e in args do
      if let .name name := e then
        if let some (.unset n) ← slot? name then
          if !((← get).arrays.getD n []).isEmpty then setSlot name (.array n)
    return result

/-- Computes an operation. -/
def operate (inner : Inner) (name : Text) (operands : List RecordExpr) :
    RecordRun RecordValue := do
  let word := String.ofList name
  match word, operands with
  | "neg", [e] => return .number (-(← inner.eval e).toReal)
  | "pos", [e] => return .number (← inner.eval e).toReal
  | "not", [e] => return .ofBool (!(← inner.eval e).isTrue)
  | "&&", [a, b] =>
    if (← inner.eval a).isTrue then return .ofBool (← inner.eval b).isTrue else return .ofBool false
  | "||", [a, b] =>
    if (← inner.eval a).isTrue then return .ofBool true else return .ofBool (← inner.eval b).isTrue
  | "~", [a, b] | "!~", [a, b] =>
    let s ← textOf (← inner.eval a)
    let pattern ← patternFrom inner b
    return .ofBool (pattern.occursIn false s != (word = "!~"))
  | "join", [a, b] =>
    let first ← textOf (← inner.eval a)
    let second ← textOf (← inner.eval b)
    return .text (first ++ second)
  | sign, [a, b] =>
    let x ← inner.eval a
    let y ← inner.eval b
    if ["<", "<=", "==", "!=", ">", ">="].contains sign then
      return .ofBool (RecordValue.holds sign (← globalText "CONVFMT") x y)
    else return .number (arithmetic sign x.toReal y.toReal)
  | _, _ => return .missing

/-- Computes an expression. -/
def evalAt (inner : Inner) (e : RecordExpr) : RecordRun RecordValue := do
  match e with
  | .number x => return .number x
  | .text s => return .text s
  | .pattern s => return .ofBool ((← patternOf s).occursIn false (← get).record)
  | .name name => valueOf name
  | .element array keys =>
    let key ← keyOf (← keys.mapM inner.eval)
    element (← arrayOf array) key
  | .field n => fieldValue (RecordFormat.wholeOf (← inner.eval n).toReal)
  | .group body => inner.eval body
  | .assign [] target value =>
    let v ← match ← inner.eval value with
      | .missing => pure (RecordValue.missing)
      | v => pure v
    store inner target v
    return v
  | .assign operation target value =>
    let old ← inner.eval target
    let amount ← inner.eval value
    let word := if operation = ['*', '*'] then "^" else String.ofList operation
    let v := RecordValue.number (arithmetic word old.toReal amount.toReal)
    store inner target v
    return v
  | .operation name operands => operate inner name operands
  | .step amount before target =>
    let old := (← inner.eval target).toReal
    store inner target (.number (old + amount))
    return .number (if before then old + amount else old)
  | .choice condition first second =>
    if (← inner.eval condition).isTrue then inner.eval first else inner.eval second
  | .member keys array =>
    let key ← keyOf (← keys.mapM inner.eval)
    let n ← arrayOf array
    return .ofBool (((← get).arrays.getD n []).any (·.1 = key))
  | .call name args => call inner name args
  | .builtin name args => builtin inner name args
  | .read source origin target => readRecord inner source origin target

/-! ## Statements -/

/-- How many rounds a loop has at most. -/
def roundLimit : Nat := 10000000

/-- Carries out the body of a loop.  The answer is whether the loop goes on. -/
def round (body : RecordRun Unit) : RecordRun Bool :=
  tryCatch
    (do
      body
      return true)
    (fun signal =>
      match signal with
      | .breakLoop => return false
      | .continueLoop => return true
      | signal => throw signal)

/-- Repeats the body of a loop as long as a condition holds. -/
def repeatWhile (condition : RecordRun Bool) (body step : RecordRun Unit) :
    Nat → RecordRun Unit
  | 0 => return ()
  | limit + 1 => do
    if ← condition then
      if ← round body then
        step
        repeatWhile condition body step limit

/-- The text of a value that is shown. -/
def shown (v : RecordValue) : RecordRun Text := do
  match v with
  | .number _ => return v.toText (← globalText "OFMT")
  | v => return v.toText []

/-- The name of a sink. -/
def sinkName (inner : Inner) (sink : RecordSink) : RecordRun Text := do
  match sink with
  | .output => return []
  | .file _ name | .command name => textOf (← inner.eval name)

/-- Carries a statement out. -/
def execAt (inner : Inner) (statement : RecordStatement) : RecordRun Unit := do
  match statement with
  | .block body => for part in body do inner.exec part
  | .compute e =>
    let _ ← inner.eval e
  | .print values sink =>
    let line ← if values.isEmpty then pure (← get).record
      else do
        let texts ← values.mapM fun e => do shown (← inner.eval e)
        pure (Text.join (← globalText "OFS") texts)
    let name ← sinkName inner sink
    write sink name (line ++ (← globalText "ORS"))
  | .printFormat values sink =>
    match ← values.mapM inner.eval with
    | [] => return ()
    | format :: values =>
      let format ← textOf format
      let name ← sinkName inner sink
      match RecordFormat.write (← globalText "CONVFMT") (format.length + 1) format values with
      | some s => write sink name s
      | none =>
        abort ("run time error: not enough arguments passed to printf(\"".toList ++ format ++
          "\")\n\tFILENAME=\"".toList ++ (← globalText "FILENAME") ++ "\" FNR=".toList ++
          (← globalText "FNR") ++ " NR=".toList ++ (← globalText "NR"))
  | .branch condition first second =>
    if (← inner.eval condition).isTrue then inner.exec first else inner.exec second
  | .loop start condition step body =>
    inner.exec start
    repeatWhile (do return (← inner.eval condition).isTrue) (inner.exec body) (inner.exec step)
      roundLimit
  | .loopFirst body condition =>
    if ← round (inner.exec body) then
      repeatWhile (do return (← inner.eval condition).isTrue) (inner.exec body) (pure ()) roundLimit
  | .forEach name array body =>
    let n ← arrayOf array
    for key in keysInOrder ((← get).arrays.getD n []) do
      setSlot name (.value (.ofInput key))
      if !(← round (inner.exec body)) then break
  | .leave word value =>
    match String.ofList word with
    | "break" => throw .breakLoop
    | "continue" => throw .continueLoop
    | "next" => throw .nextRecord
    | "nextfile" => throw .nextFile
    | "exit" =>
      match value with
      | [e] => setGlobal "exit status" (← inner.eval e)
      | _ => pure ()
      throw .exit
    | _ =>
      match value with
      | [e] => throw (.returned (← inner.eval e))
      | _ => throw (.returned .missing)
  | .delete array keys =>
    let n ← arrayOf array
    if keys.isEmpty then
      modify fun state => { state with arrays := state.arrays.setIfInBounds n [] }
    else
      let key ← keyOf (← keys.mapM inner.eval)
      modify fun state =>
        let entries := (state.arrays.getD n []).filter (·.1 ≠ key)
        { state with arrays := state.arrays.setIfInBounds n entries }

/-- Expressions and statements up to a depth. -/
def innerWithin : Nat → Inner
  | 0 => ⟨fun _ => abort "too deep".toList, fun _ => abort "too deep".toList⟩
  | depth + 1 =>
    let inner := innerWithin depth
    ⟨evalAt inner, execAt inner⟩

/-- How deep expressions, statements and calls may stand in each other. -/
def depthLimit : Nat := 10000

/-! ## Rules -/

/-- Whether a rule is carried out for the record. -/
def chooses (inner : Inner) (index : Nat) (pattern : RecordPattern) : RecordRun Bool := do
  match pattern with
  | .first | .last => return false
  | .all => return true
  | .holds e => return (← inner.eval e).isTrue
  | .range start stop =>
    let isOpen := (← get).openRanges.contains index
    let begins ← if isOpen then pure true else do pure (← inner.eval start).isTrue
    if begins then
      if (← inner.eval stop).isTrue then
        modify fun state => { state with openRanges := state.openRanges.filter (· ≠ index) }
      else if !isOpen then
        modify fun state => { state with openRanges := index :: state.openRanges }
    return begins

/-- Carries a body out, or shows the record. -/
def bodyOf (inner : Inner) (rule : RecordRule) : RecordRun Unit :=
  inner.exec (rule.body.getD (.print [] .output))

/-- Carries all rules out for the record. -/
def eachRule (inner : Inner) (rules : List RecordRule) : RecordRun Unit := do
  for (rule, index) in rules.zipIdx do
    if ← chooses inner index rule.pattern then bodyOf inner rule

/-- Carries the rules out for all records. -/
def records (inner : Inner) (rules : List RecordRule) : Nat → RecordRun Unit
  | 0 => return ()
  | limit + 1 => do
    match ← nextRecord 1000 with
    | none => return ()
    | some record =>
      setRecord record
      tryCatch (eachRule inner rules) fun signal =>
        match signal with
        | .nextRecord => pure ()
        | .nextFile => modify fun state => { state with input := none }
        | signal => throw signal
      records inner rules limit

/-- Runs something up to an end of the script. -/
def untilExit (body : RecordRun Unit) : RecordRun Bool :=
  tryCatch
    (do
      body
      return false)
    (fun _ => return true)

/-- Runs a whole script.  The answer is its status. -/
def script (inner : Inner) : RecordRun Nat := do
  let rules := (← get).script.rules
  let isFirst (rule : RecordRule) : Bool :=
    match rule.pattern with
    | .first => true
    | _ => false
  let isLast (rule : RecordRule) : Bool :=
    match rule.pattern with
    | .last => true
    | _ => false
  let ended ← untilExit do
    for rule in rules do
      if isFirst rule then bodyOf inner rule
  let needsInput := rules.any fun rule => !isFirst rule
  if needsInput && !ended then
    let _ ← untilExit (records inner rules roundLimit)
  let _ ← untilExit do
    for rule in rules do
      if isLast rule then bodyOf inner rule
  closeAll
  return (RecordFormat.wholeOf (← global "exit status").toReal % 256).toNat

end RecordRun

namespace Tool

/-- Gives the values that a script finds when it begins. -/
def recordSetup (args : List Text) : RecordRun Unit := do
  for (name, value) in [("FS", " "), ("OFS", " "), ("ORS", "\n"), ("RS", "\n"),
      ("SUBSEP", "\x1c"), ("CONVFMT", "%.6g"), ("OFMT", "%.6g"), ("FILENAME", "")] do
    RecordRun.setGlobal name (.text value.toList)
  for name in ["NR", "FNR", "RSTART"] do RecordRun.setGlobal name (.number 0)
  RecordRun.setGlobal "RLENGTH" (.number (-1))
  let arguments ← RecordRun.arrayOf "ARGV".toList
  let process ← RecordRun.lift read
  for (arg, n) in (process.name :: args).zipIdx do
    RecordRun.setElement arguments (Text.ofNat n) (.ofInput arg)
  RecordRun.setGlobal "ARGC" (.ofNat (args.length + 1))
  let environment ← RecordRun.arrayOf "ENVIRON".toList
  for (name, value) in process.environment do
    RecordRun.setElement environment name (.ofInput value)

/-- Runs a record script over files. -/
def processRecords : Task Nat := do
  let table := "F: v: f: W:"
  let o ← match Options.read (OptionForm.table table) false (← read).args with
    | .ok o => pure o
    | .error message => do
      Task.complain message
      Task.quit 2
  let mut source : Text := []
  let mut operands := o.operands
  for file in o.values "f" do
    match ← Task.contentOf file with
    | .ok content => source := source ++ content ++ ['\n']
    | .error fault =>
      Task.fail ("couldn't open program file ".toList ++ file) 2
      let _ := fault
  if !o.has "f" then
    match operands with
    | [] =>
      Task.writeTo 2 "Usage: mawk [Options] [Program] [file ...]\n".toList
      Task.quit 2
    | program :: rest =>
      source := program
      operands := rest
  match RecordScript.ofText? source with
  | .error message => Task.fail message 2
  | .ok script =>
    let process : RecordRun Nat := do
      recordSetup operands
      if let some separator := o.value? "F" then
        let separator := match RecordToken.readText [] (separator ++ ['"']) with
          | some (s, _) => s
          | none => separator
        RecordRun.setGlobal "FS" (.text separator)
      for assignment in o.values "v" do
        match RecordRun.assignment? assignment with
        | some (name, value) => RecordRun.assignArgument name value
        | none => RecordRun.abort ("improper assignment: -v ".toList ++ assignment)
      RecordRun.script (RecordRun.innerWithin RecordRun.depthLimit)
    let (result, _) ← process.run.run { script }
    match result with
    | .ok status => return status
    | .error _ => return 2

end Tool

end ScriptBundle
