/-
# Reading record scripts

Builds rules and functions from tokens.  Operators have levels; an expression of one level is made of
expressions of the next one.

## Main content

- `RecordScript.ofText?` reads a script, or says what is wrong with it.
-/
import ScriptBundle.Tool.Record.Script

namespace ScriptBundle

/-- Reads parts of a script, or says what is wrong there. -/
abbrev RecordReader := StateT (List RecordToken) (Except Text)

namespace RecordReader

/-! ## Tokens -/

/-- The next token. -/
def peek : RecordReader RecordToken := do
  return (← get).headD ⟨.finish, "end of file".toList, 1⟩

/-- The token behind the next one. -/
def peekSecond : RecordReader RecordToken := do
  return ((← get).drop 1).headD ⟨.finish, "end of file".toList, 1⟩

/-- Takes the next token. -/
def skip : RecordReader Unit := modify fun tokens =>
  match tokens with
  | [last] => [last]
  | tokens => tokens.tail

/-- Refuses the script on a line. -/
def refuse {α : Type} (line : Nat) (message : Text) : RecordReader α :=
  throw ("line ".toList ++ Text.ofNat line ++ [':', ' '] ++ message)

/-- Refuses the next token. -/
def wrong {α : Type} : RecordReader α := do
  let token ← peek
  if token.kind = .finish then
    refuse token.line "syntax error at or near end of file".toList
  else if token.isSign "\x7d" ∨ token.isSign ")" then
    refuse token.line ("syntax error at or near ".toList ++ token.text)
  else refuse token.line ("syntax error at or near ".toList ++ token.text)

/-- Takes a sign if it is the next token. -/
def takeSign (sign : String) : RecordReader Bool := do
  if (← peek).isSign sign then
    skip
    return true
  else return false

/-- Takes a sign that has to be there. -/
def expectSign (sign : String) : RecordReader Unit := do
  if !(← takeSign sign) then
    let token ← peek
    if sign = ")" ∧ token.isSign "\x7d" then
      refuse token.line "missing ) near \x7d".toList
    else wrong

/-- Skips the ends of lines. -/
def skipNewlines : Nat → RecordReader Unit
  | 0 => return ()
  | limit + 1 => do
    if (← peek).kind = .newline then
      skip
      skipNewlines limit

/-- Skips ends of lines and semicolons. -/
def skipBreaks : Nat → RecordReader Unit
  | 0 => return ()
  | limit + 1 => do
    let token ← peek
    if token.kind = .newline ∨ token.isSign ";" then
      skip
      skipBreaks limit

/-- Skips the ends of lines. -/
def newlines : RecordReader Unit := do skipNewlines (← get).length

/-! ## Expressions -/

/-- How the parts inside an expression or statement are read. -/
structure Inner where
  /-- Reads an expression of a level.  A greater-than sign may belong to it or not. -/
  expr : Nat → Bool → RecordReader RecordExpr
  /-- Reads a statement. -/
  statement : RecordReader RecordStatement

/-- Reads expressions between commas. -/
def commaList (inner : Inner) (compares : Bool) : Nat → RecordReader (List RecordExpr)
  | 0 => return []
  | limit + 1 => do
    let first ← inner.expr 0 compares
    if ← takeSign "," then
      newlines
      return first :: (← commaList inner compares limit)
    else return [first]

/-- Reads expressions between parentheses, behind the opening one. -/
def arguments (inner : Inner) : RecordReader (List RecordExpr) := do
  newlines
  if ← takeSign ")" then return []
  let found ← commaList inner true (← get).length
  newlines
  expectSign ")"
  return found

/-- Whether an expression can have a value given to it. -/
def isTarget : RecordExpr → Bool
  | .name _ | .element _ _ | .field _ => true
  | _ => false

/-- How many arguments a built-in function takes: at least and at most. -/
def argumentRange (name : String) : Nat × Nat :=
  match name with
  | "length" | "srand" | "fflush" => (0, 1)
  | "substr" | "split" | "sub" | "gsub" => (2, 3)
  | "index" | "match" | "atan2" => (2, 2)
  | "sprintf" => (1, 1000)
  | "rand" | "systime" => (0, 0)
  | "strftime" => (0, 3)
  | _ => (1, 1)

/-- Reads a name or an element of an array, whose name was read already. -/
def named (inner : Inner) (name : Text) : RecordReader RecordExpr := do
  if ← takeSign "[" then
    let keys ← commaList inner true (← get).length
    expectSign "]"
    return .element name keys
  else return .name name

/-- Reads an expression that is not put together by operators. -/
def primary (inner : Inner) : RecordReader RecordExpr := do
  let token ← peek
  match token.kind with
  | .number =>
    skip
    return .number ((Real.readSize token.text).map (·.1) |>.getD 0)
  | .text =>
    skip
    return .text token.text
  | .pattern =>
    skip
    return .pattern token.text
  | .name =>
    skip
    named inner token.text
  | .function =>
    skip
    skip
    return .call token.text (← arguments inner)
  | .builtin =>
    skip
    let (least, most) := argumentRange (String.ofList token.text)
    let args ← if ← takeSign "(" then arguments inner
      else if least = 0 then pure []
      else wrong
    if args.length < least ∨ most < args.length then
      refuse token.line ("wrong number of arguments in call to ".toList ++ token.text)
    return .builtin token.text args
  | .sign =>
    match String.ofList token.text with
    | "$" =>
      skip
      if (← peek).isSign "++" ∨ (← peek).isSign "--" then
        let amount : Float := if (← peek).isSign "++" then 1 else -1
        skip
        return .field (.step amount true (← inner.expr 12 true))
      else if ← takeSign "-" then return .field (.operation ['n', 'e', 'g'] [← inner.expr 12 true])
      else return .field (← inner.expr 12 true)
    | "(" =>
      skip
      newlines
      let found ← commaList inner true (← get).length
      newlines
      expectSign ")"
      match found with
      | [single] => return .group single
      | keys =>
        if (← peek).isWord "in" then
          skip
          let array ← peek
          if array.kind ≠ .name then wrong
          skip
          return .member keys array.text
        else wrong
    | "-" =>
      skip
      return .operation "neg".toList [← inner.expr 9 true]
    | "+" =>
      skip
      return .operation "pos".toList [← inner.expr 9 true]
    | "!" =>
      skip
      return .operation "not".toList [← inner.expr 9 true]
    | _ => wrong
  | .word =>
    if token.isWord "getline" then
      skip
      let next ← peek
      let target ← if next.kind = .name ∨ next.isSign "$" then pure [← inner.expr 12 true] else pure []
      if ← takeSign "<" then return .read .file [← inner.expr 11 true] target
      else return .read .main [] target
    else wrong
  | _ => wrong

/-- The operators that give values. -/
def assignments : List String := ["=", "+=", "-=", "*=", "/=", "%=", "^=", "**="]

/-- Reads an expression with steps up and down, or one that is given a value. -/
def stepped (inner : Inner) (compares : Bool) : RecordReader RecordExpr := do
  let token ← peek
  if token.isSign "++" ∨ token.isSign "--" then
    skip
    let target ← inner.expr 12 true
    if !isTarget target then wrong
    return .step (if token.text = ['+', '+'] then 1 else -1) true target
  let target ← inner.expr 12 true
  if isTarget target then
    let token ← peek
    if token.isSign "++" ∨ token.isSign "--" then
      skip
      return .step (if token.text = ['+', '+'] then 1 else -1) false target
    else if token.kind = .sign ∧ assignments.contains (String.ofList token.text) then
      skip
      newlines
      return .assign token.text.dropLast target (← inner.expr 0 compares)
    else return target
  else return target

/-- Reads operands of a level with operators between them, from the left. -/
def leftward (operand : RecordReader RecordExpr) (operators : List String) (breaks : Bool) :
    Nat → RecordExpr → RecordReader RecordExpr
  | 0, found => return found
  | limit + 1, found => do
    let token ← peek
    if token.kind = .sign ∧ operators.contains (String.ofList token.text) then
      skip
      if breaks then newlines
      let next ← operand
      leftward operand operators breaks limit (.operation token.text [found, next])
    else return found

/-- Whether a token can begin an operand that is joined to a text. -/
def joins (token : RecordToken) : Bool :=
  match token.kind with
  | .number | .text | .pattern | .name | .function | .builtin => true
  | .sign => ["$", "(", "!", "++", "--"].contains (String.ofList token.text)
  | _ => false

/-- Reads operands that are joined. -/
def joined (inner : Inner) (compares : Bool) : Nat → RecordExpr → RecordReader RecordExpr
  | 0, found => return found
  | limit + 1, found => do
    if joins (← peek) then
      let next ← inner.expr 7 compares
      joined inner compares limit (.operation "join".toList [found, next])
    else return found

/-- Reads comparisons, and records from commands. -/
def compared (inner : Inner) (compares : Bool) : Nat → RecordExpr → RecordReader RecordExpr
  | 0, found => return found
  | limit + 1, found => do
    let token ← peek
    let signs := ["<", "<=", "==", "!=", ">="] ++ (if compares then [">"] else [])
    if token.kind = .sign ∧ signs.contains (String.ofList token.text) then
      skip
      let next ← inner.expr 6 compares
      compared inner compares limit (.operation token.text [found, next])
    else if token.isSign "|" ∧ (← peekSecond).isWord "getline" then
      skip
      skip
      let next ← peek
      let target ← if next.kind = .name ∨ next.isSign "$" then pure [← inner.expr 12 true] else pure []
      compared inner compares limit (.read .command [found] target)
    else return found

/-- Reads questions whether arrays have elements. -/
def members : Nat → RecordExpr → RecordReader RecordExpr
  | 0, found => return found
  | limit + 1, found => do
    if (← peek).isWord "in" then
      skip
      let array ← peek
      if array.kind ≠ .name then wrong
      skip
      members limit (.member [found] array.text)
    else return found

/-- Reads an expression of a level. -/
def exprAt (inner : Inner) (level : Nat) (compares : Bool) : RecordReader RecordExpr := do
  let limit := (← get).length
  let below := inner.expr (level + 1) compares
  match level with
  | 0 =>
    let condition ← below
    if ← takeSign "?" then
      newlines
      let first ← inner.expr 0 compares
      newlines
      expectSign ":"
      newlines
      return .choice condition first (← inner.expr 0 compares)
    else return condition
  | 1 => leftward below ["||"] true limit (← below)
  | 2 => leftward below ["&&"] true limit (← below)
  | 3 => members limit (← below)
  | 4 => leftward below ["~", "!~"] false limit (← below)
  | 5 => compared inner compares limit (← below)
  | 6 => joined inner compares limit (← below)
  | 7 => leftward below ["+", "-"] false limit (← below)
  | 8 => leftward below ["*", "/", "%"] false limit (← below)
  | 9 => below
  | 10 =>
    let token ← peek
    if token.isSign "-" ∨ token.isSign "+" ∨ token.isSign "!" then primary inner
    else
      let base ← below
      let token ← peek
      if token.isSign "^" ∨ token.isSign "**" then
        skip
        return .operation ['^'] [base, ← inner.expr 10 compares]
      else return base
  | 11 => stepped inner compares
  | _ => primary inner

/-! ## Statements -/

/-- Whether a statement ends in front of a token. -/
def endsStatement (token : RecordToken) : Bool :=
  token.kind = .newline || token.kind = .finish || token.isSign ";" || token.isSign "\x7d"

/-- Reads the end of a simple statement. -/
def endSimple : RecordReader Unit := do
  let token ← peek
  if token.kind = .newline ∨ token.isSign ";" then skip
  else if token.isSign "\x7d" then return ()
  else if token.kind = .finish then
    refuse (token.line + 1) "missing \x7d near end of file".toList
  else if token.isSign ")" then refuse token.line "extra ')'".toList
  else wrong

/-- Whether parentheses around all values of an output end where it ends. -/
def closesValues : Nat → List RecordToken → Bool
  | _, [] => false
  | depth, token :: rest =>
    if token.isSign "(" then closesValues (depth + 1) rest
    else if token.isSign ")" then
      if depth = 1 then
        match rest with
        | next :: _ => endsStatement next || next.isSign ">" || next.isSign ">>" || next.isSign "|"
        | [] => true
      else closesValues (depth - 1) rest
    else if token.kind = .finish then false
    else closesValues depth rest

/-- Reads the values of an output and where it goes. -/
def outputParts (inner : Inner) : RecordReader (List RecordExpr × RecordSink) := do
  let token ← peek
  let values ←
    if endsStatement token ∨ token.isSign ">" ∨ token.isSign ">>" ∨ token.isSign "|" then pure []
    else if token.isSign "(" && closesValues 0 (← get) then do
      skip
      arguments inner
    else commaList inner false (← get).length
  let sink ←
    if ← takeSign ">" then pure (RecordSink.file false (← inner.expr 6 false))
    else if ← takeSign ">>" then pure (RecordSink.file true (← inner.expr 6 false))
    else if ← takeSign "|" then pure (RecordSink.command (← inner.expr 6 false))
    else pure RecordSink.output
  return (values, sink)

/-- Reads statements up to a closing brace. -/
def block (inner : Inner) : Nat → RecordReader (List RecordStatement)
  | 0 => return []
  | limit + 1 => do
    skipBreaks (← get).length
    if ← takeSign "\x7d" then return []
    let token ← peek
    if token.kind = .finish then
      refuse (token.line + 1) "missing \x7d near end of file".toList
    let first ← inner.statement
    return first :: (← block inner limit)

/-- Reads a statement that may be the body of another one. -/
def body (inner : Inner) : RecordReader RecordStatement := do
  newlines
  if ← takeSign ";" then return .block []
  inner.statement

/-- Reads a statement without what ends it. -/
def simple (inner : Inner) : RecordReader RecordStatement := do
  let token ← peek
  if token.isWord "print" then
    skip
    let (values, sink) ← outputParts inner
    return .print values sink
  else if token.isWord "printf" then
    skip
    let (values, sink) ← outputParts inner
    if values.isEmpty then refuse token.line "no arguments in call to printf".toList
    return .printFormat values sink
  else if token.isWord "delete" then
    skip
    let name ← peek
    if name.kind ≠ .name then wrong
    skip
    match ← named inner name.text with
    | .element array keys => return .delete array keys
    | _ => return .delete name.text []
  else return .compute (← inner.expr 0 true)

/-- Reads a condition in parentheses. -/
def condition (inner : Inner) : RecordReader RecordExpr := do
  expectSign "("
  newlines
  let e ← inner.expr 0 true
  newlines
  expectSign ")"
  return e

/-- Reads a loop over the keys of an array, or one with steps. -/
def forLoop (inner : Inner) : RecordReader RecordStatement := do
  expectSign "("
  match ← get with
  | name :: word :: array :: close :: _ =>
    if name.kind = .name ∧ word.isWord "in" ∧ array.kind = .name ∧ close.isSign ")" then
      skip
      skip
      skip
      skip
      return .forEach name.text array.text (← body inner)
  | _ => pure ()
  let start ← if (← peek).isSign ";" then pure (RecordStatement.block []) else simple inner
  expectSign ";"
  newlines
  let test ← if (← peek).isSign ";" then pure (RecordExpr.number 1) else inner.expr 0 true
  expectSign ";"
  newlines
  let step ← if (← peek).isSign ")" then pure (RecordStatement.block []) else simple inner
  expectSign ")"
  return .loop start test step (← body inner)

/-- Reads a statement. -/
def statementAt (inner : Inner) : RecordReader RecordStatement := do
  let token ← peek
  if token.isSign "\x7b" then
    skip
    return .block (← block inner (← get).length)
  if token.kind ≠ .word then
    let found ← simple inner
    endSimple
    return found
  match String.ofList token.text with
  | "if" =>
    skip
    let test ← condition inner
    let first ← body inner
    let tokens ← get
    skipBreaks tokens.length
    if (← peek).isWord "else" then
      skip
      return .branch test first (← body inner)
    else
      set tokens
      return .branch test first (.block [])
  | "while" =>
    skip
    let test ← condition inner
    return .loop (.block []) test (.block []) (← body inner)
  | "do" =>
    skip
    let first ← body inner
    skipBreaks (← get).length
    if !(← peek).isWord "while" then wrong
    skip
    let test ← condition inner
    endSimple
    return .loopFirst first test
  | "for" =>
    skip
    forLoop inner
  | "break" | "continue" | "next" | "nextfile" =>
    skip
    endSimple
    return .leave token.text []
  | "exit" | "return" =>
    skip
    let value ← if endsStatement (← peek) then pure [] else pure [← inner.expr 0 true]
    endSimple
    return .leave token.text value
  | _ =>
    let found ← simple inner
    endSimple
    return found

/-- The readers up to a depth. -/
def innerWithin : Nat → Inner
  | 0 => ⟨fun _ _ => wrong, wrong⟩
  | depth + 1 =>
    let inner := innerWithin depth
    ⟨exprAt inner, statementAt inner⟩

/-- How deep expressions and statements are read. -/
def depthLimit : Nat := 2000

/-! ## Scripts -/

/-- Reads names between commas. -/
def nameList : Nat → RecordReader (List Text)
  | 0 => return []
  | limit + 1 => do
    newlines
    let token ← peek
    if token.kind ≠ .name then wrong
    skip
    if ← takeSign "," then return token.text :: (← nameList limit)
    else return [token.text]

/-- Reads the statements of a rule or function, behind the opening brace. -/
def bracedBlock (inner : Inner) : RecordReader RecordStatement := do
  return .block (← block inner (← get).length)

/-- Reads a rule or a function into a script. -/
def item (inner : Inner) (script : RecordScript) : RecordReader RecordScript := do
  let token ← peek
  if token.isWord "function" ∨ token.isWord "func" then
    skip
    let name ← peek
    if name.kind ≠ .function ∧ name.kind ≠ .name then wrong
    skip
    expectSign "("
    let params ← if (← peek).isSign ")" then pure [] else nameList (← get).length
    expectSign ")"
    newlines
    expectSign "\x7b"
    let body ← bracedBlock inner
    return { script with functions := script.functions ++ [⟨name.text, params, body⟩] }
  else
    let pattern ←
      if token.isWord "BEGIN" then do
        skip
        pure RecordPattern.first
      else if token.isWord "END" then do
        skip
        pure RecordPattern.last
      else if token.isSign "\x7b" then pure RecordPattern.all
      else if token.isSign "\x7d" then refuse token.line "extra '\x7d'".toList
      else do
        let start ← inner.expr 0 true
        if ← takeSign "," then
          newlines
          pure (RecordPattern.range start (← inner.expr 0 true))
        else pure (RecordPattern.holds start)
    if ← takeSign "\x7b" then
      return { script with rules := script.rules ++ [⟨pattern, some (← bracedBlock inner)⟩] }
    else
      match pattern with
      | .first | .last => wrong
      | _ => return { script with rules := script.rules ++ [⟨pattern, none⟩] }

/-- Reads rules and functions up to the end of the script. -/
def items (inner : Inner) : Nat → RecordScript → RecordReader RecordScript
  | 0, script => return script
  | limit + 1, script => do
    skipBreaks (← get).length
    if (← peek).kind = .finish then return script
    items inner limit (← item inner script)

end RecordReader

/-- Reads a script. -/
def RecordScript.ofText? (s : Text) : Except Text RecordScript := do
  let tokens ← RecordToken.ofText? s
  let inner := RecordReader.innerWithin RecordReader.depthLimit
  let (script, _) ← (RecordReader.items inner tokens.length {}).run tokens
  .ok script

end ScriptBundle
