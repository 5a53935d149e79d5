/-
# Record scripts

A record script has rules: a pattern that chooses records, and statements that are carried out for
the chosen ones.  This file holds the forms of such scripts and cuts their texts into tokens.

## Main content

- `RecordExpr`, `RecordStatement` and `RecordRule` are the forms of a script.
- `RecordToken.ofText?` cuts a text into tokens.
-/
import ScriptBundle.Numeral.Directive
import ScriptBundle.Pattern.Reader

namespace ScriptBundle

/-! ## Forms -/

/-- Where `getline` reads. -/
inductive RecordSource where
  /-- From the next record. -/
  | main
  /-- From a file. -/
  | file
  /-- From the output of a command. -/
  | command

/-- An expression. -/
inductive RecordExpr where
  /-- A number. -/
  | number (x : Float)
  /-- A text. -/
  | text (s : Text)
  /-- A pattern, which is looked for in the record. -/
  | pattern (s : Text)
  /-- The value of a name. -/
  | name (name : Text)
  /-- An element of an array. -/
  | element (array : Text) (keys : List RecordExpr)
  /-- A field of the record. -/
  | field (number : RecordExpr)
  /-- An expression in parentheses. -/
  | group (body : RecordExpr)
  /-- Gives a value to what can have one, perhaps by way of an operation. -/
  | assign (operation : Text) (target value : RecordExpr)
  /-- An operation on values. -/
  | operation (name : Text) (operands : List RecordExpr)
  /-- Adds to what can have a value, and gives the value before or after. -/
  | step (amount : Float) (before : Bool) (target : RecordExpr)
  /-- One of two values, by a condition. -/
  | choice (condition first second : RecordExpr)
  /-- Whether an array has an element. -/
  | member (keys : List RecordExpr) (array : Text)
  /-- Calls a function that the script defines. -/
  | call (name : Text) (args : List RecordExpr)
  /-- Calls a function that is built in. -/
  | builtin (name : Text) (args : List RecordExpr)
  /-- Reads a record, into a target if there is one. -/
  | read (source : RecordSource) (origin : List RecordExpr) (target : List RecordExpr)

/-- Where output goes. -/
inductive RecordSink where
  /-- To the output. -/
  | output
  /-- To a file, in place of its content or behind it. -/
  | file (appending : Bool) (name : RecordExpr)
  /-- To a command. -/
  | command (command : RecordExpr)

/-- A statement. -/
inductive RecordStatement where
  /-- Several statements. -/
  | block (body : List RecordStatement)
  /-- Computes a value. -/
  | compute (e : RecordExpr)
  /-- Writes values. -/
  | print (values : List RecordExpr) (sink : RecordSink)
  /-- Writes values in a format. -/
  | printFormat (values : List RecordExpr) (sink : RecordSink)
  /-- Chooses between statements. -/
  | branch (condition : RecordExpr) (first second : RecordStatement)
  /-- Repeats a statement: a first step, a condition, and a step behind each round. -/
  | loop (start : RecordStatement) (condition : RecordExpr) (step body : RecordStatement)
  /-- Repeats a statement at least once. -/
  | loopFirst (body : RecordStatement) (condition : RecordExpr)
  /-- Goes over the keys of an array. -/
  | forEach (name array : Text) (body : RecordStatement)
  /-- Leaves something: a loop, a round, a record, a file, the script or a function. -/
  | leave (word : Text) (value : List RecordExpr)
  /-- Takes away an element or all of them. -/
  | delete (array : Text) (keys : List RecordExpr)

/-- What chooses the records of a rule. -/
inductive RecordPattern where
  /-- The rule is carried out before all records. -/
  | first
  /-- The rule is carried out behind all records. -/
  | last
  /-- All records. -/
  | all
  /-- The records for which a value is true. -/
  | holds (e : RecordExpr)
  /-- The records from one for which a value is true to one for which another is. -/
  | range (start stop : RecordExpr)

/-- A rule.  Without statements it shows the record. -/
structure RecordRule where
  /-- What chooses the records. -/
  pattern : RecordPattern
  /-- What is done. -/
  body : Option RecordStatement

/-- A function. -/
structure RecordFunction where
  /-- Its name. -/
  name : Text
  /-- The names of its arguments and of its own variables. -/
  params : List Text
  /-- What it does. -/
  body : RecordStatement

/-- A script. -/
structure RecordScript where
  /-- The rules. -/
  rules : List RecordRule := []
  /-- The functions. -/
  functions : List RecordFunction := []

/-! ## Tokens -/

/-- The kinds of tokens. -/
inductive RecordTokenKind where
  /-- A number. -/
  | number
  /-- A text. -/
  | text
  /-- A pattern. -/
  | pattern
  /-- A name. -/
  | name
  /-- A name directly in front of an opening parenthesis. -/
  | function
  /-- The name of a function that is built in. -/
  | builtin
  /-- A word of the language. -/
  | word
  /-- An operator or a bracket. -/
  | sign
  /-- The end of a line. -/
  | newline
  /-- The end of the script. -/
  | finish
  deriving DecidableEq

/-- A token. -/
structure RecordToken where
  /-- Its kind. -/
  kind : RecordTokenKind
  /-- What it says. -/
  text : Text
  /-- The number of its line. -/
  line : Nat

namespace RecordToken

/-- The words of the language. -/
def words : List String :=
  ["BEGIN", "END", "function", "func", "if", "else", "while", "for", "do", "break", "continue",
    "next", "nextfile", "exit", "return", "delete", "in", "getline", "print", "printf"]

/-- The functions that are built in. -/
def builtins : List String :=
  ["length", "substr", "index", "split", "sub", "gsub", "match", "sprintf", "sin", "cos", "atan2",
    "exp", "log", "sqrt", "int", "rand", "srand", "tolower", "toupper", "system", "close", "fflush",
    "systime", "strftime", "mktime"]

/-- The operators, longer ones in front. -/
def signs : List String :=
  ["**=", "&&", "||", "==", "<=", ">=", "!=", "++", "--", "+=", "-=", "*=", "/=", "%=", "^=", "**",
    "!~", ">>", "\x7b", "\x7d", "(", ")", "[", "]", ";", ",", "+", "-", "*", "/", "%", "^", "!", "<",
    ">", "|", "?", ":", "~", "$", "="]

/-- Whether a character can stand in a name. -/
def isNameChar (c : Char) : Bool := c.isAlphanum || c = '_'

/-- Whether a slash behind a token divides. -/
def endsOperand (token : Option RecordToken) : Bool :=
  match token with
  | none => false
  | some token =>
    match token.kind with
    | .number | .text | .pattern | .name | .builtin => true
    | .sign => token.text ∈ [[')'], [']'], ['$'], ['+', '+'], ['-', '-']]
    | _ => false

/-- Reads a text up to its closing quote. -/
def readText : Text → Text → Option (Text × Text)
  | _, [] => none
  | _, '\n' :: _ => none
  | found, '"' :: s => some (found.reverse, s)
  | found, '\\' :: '\n' :: s => readText found s
  | found, '\\' :: c :: s =>
    match c with
    | '"' => readText ('"' :: found) s
    | '\\' => readText ('\\' :: found) s
    | '/' => readText ('/' :: found) s
    | c =>
      match PatternDialect.escaped? c with
      | some escaped => readText (escaped :: found) s
      | none =>
        if c = 'b' then readText ('\x08' :: found) s
        else if Numeral.isDigit 8 c then
          match s with
          | d :: e :: rest =>
            if Numeral.isDigit 8 d then
              if Numeral.isDigit 8 e then
                readText (Char.ofNat (Numeral.value 8 [c, d, e] % 256) :: found) rest
              else readText (Char.ofNat (Numeral.value 8 [c, d]) :: found) (e :: rest)
            else readText (Char.ofNat (Numeral.value 8 [c]) :: found) (d :: e :: rest)
          | s => readText (Char.ofNat (Numeral.value 8 [c]) :: found) s
        else readText (c :: '\\' :: found) s
  | found, c :: s => readText (c :: found) s

/-- Reads a pattern up to its closing slash. -/
def readPattern : Bool → Text → Text → Option (Text × Text)
  | _, _, [] => none
  | _, _, '\n' :: _ => none
  | false, found, '/' :: s => some (found.reverse, s)
  | inSet, found, '\\' :: '/' :: s => readPattern inSet ('/' :: found) s
  | inSet, found, '\\' :: c :: s => readPattern inSet (c :: '\\' :: found) s
  | false, found, '[' :: ']' :: s => readPattern true (']' :: '[' :: found) s
  | false, found, '[' :: '^' :: ']' :: s => readPattern true (']' :: '^' :: '[' :: found) s
  | false, found, '[' :: s => readPattern true ('[' :: found) s
  | true, found, ']' :: s => readPattern false (']' :: found) s
  | inSet, found, c :: s => readPattern inSet (c :: found) s

/-- Reads a row of digits with a point and an exponent. -/
def readNumber (s : Text) : Option (Text × Text) :=
  match Real.readSize s with
  | some (_, rest) => some (s.take (s.length - rest.length), rest)
  | none => none

/-- Cuts a text into tokens. -/
def ofTextWithin : Nat → Nat → List RecordToken → Text → Except Text (List RecordToken)
  | 0, line, found, _ => .ok (⟨.finish, "end of file".toList, line⟩ :: found)
  | limit + 1, line, found, s =>
    let add (kind : RecordTokenKind) (text rest : Text) : Except Text (List RecordToken) :=
      ofTextWithin limit line (⟨kind, text, line⟩ :: found) rest
    match s with
    | [] => .ok (⟨.finish, "end of file".toList, line⟩ :: found)
    | '\n' :: rest =>
      ofTextWithin limit (line + 1) (⟨.newline, "end of line".toList, line⟩ :: found) rest
    | '\\' :: '\n' :: rest => ofTextWithin limit (line + 1) found rest
    | '\\' :: '\x0d' :: '\n' :: rest => ofTextWithin limit (line + 1) found rest
    | '#' :: rest => ofTextWithin limit line found (rest.dropWhile (· ≠ '\n'))
    | '"' :: rest =>
      match readText [] rest with
      | some (text, rest) => add .text text rest
      | none =>
        .error ("line ".toList ++ Text.ofNat line ++ ": runaway string constant \"".toList ++
          rest.takeWhile (· ≠ '\n') ++ " ...".toList)
    | c :: rest =>
      if c = ' ' ∨ c = '\t' ∨ c = '\x0d' then ofTextWithin limit line found rest
      else if c.isDigit ∨ (c = '.' ∧ rest.head?.any Char.isDigit) then
        match readNumber s with
        | some (row, rest) => add .number row rest
        | none => add .sign [c] rest
      else if c.isAlpha ∨ c = '_' then
        let (name, rest) := s.span isNameChar
        let word := String.ofList name
        if words.contains word then add .word name rest
        else if builtins.contains word then add .builtin name rest
        else if rest.head? = some '(' then add .function name rest
        else add .name name rest
      else if c = '/' ∧ !endsOperand found.head? then
        match readPattern false [] rest with
        | some (text, rest) => add .pattern text rest
        | none =>
          .error ("line ".toList ++ Text.ofNat line ++ ": runaway regular expression /".toList ++
            rest.takeWhile (· ≠ '\n') ++ " ...".toList)
      else
        match signs.find? fun sign => sign.toList.isPrefixOf s with
        | some sign => add .sign sign.toList (s.drop sign.length)
        | none =>
          .error ("line ".toList ++ Text.ofNat line ++ ": unexpected character '".toList ++ [c, '\''])

/-- Cuts a text into tokens. -/
def ofText? (s : Text) : Except Text (List RecordToken) :=
  (ofTextWithin (s.length + 1) 1 [] s).map List.reverse

/-- Whether a token is a sign. -/
def isSign (token : RecordToken) (sign : String) : Bool :=
  token.kind = .sign && token.text = sign.toList

/-- Whether a token is a word of the language. -/
def isWord (token : RecordToken) (word : String) : Bool :=
  token.kind = .word && token.text = word.toList

end RecordToken

end ScriptBundle
