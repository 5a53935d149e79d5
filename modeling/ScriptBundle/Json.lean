/-
# JSON values

A reader for JSON, the format in which compiler programs answer.  It reads symbols: characters, and
gaps where bytes were malformed.  A gap may stand inside a string, where it matters only if the
string is asked for its text.

## Main content

- `Json` is a value as it was written: members in order, repeated ones included, strings with their
  escapes, numbers not interpreted.
- `Json.ofSymbols?` reads one value with blanks around it and nothing else.
- `Json.string?` is the text of a string value.
-/
import ScriptBundle.Text.Utf8

namespace ScriptBundle

/-- A part of a string: what one character or escape of it stands for. -/
inductive JsonUnit where
  /-- A character. -/
  | char (c : Char)
  /-- A code unit of UTF-16, written as an escape with four digits. -/
  | code (unit : Nat)
  /-- Malformed bytes. -/
  | gap
  deriving DecidableEq

/-- A JSON value. -/
inductive Json where
  /-- The value `null`. -/
  | null
  /-- A truth value. -/
  | bool (value : Bool)
  /-- A number. -/
  | number
  /-- A string. -/
  | string (units : List JsonUnit)
  /-- A list of values. -/
  | array (values : List Json)
  /-- Members with their keys, in the order in which they are written. -/
  | object (members : List (List JsonUnit × Json))

namespace Json

/-- What is read: characters and gaps. -/
abbrev Symbols := List (Option Char)

/-! ## Strings -/

/-- The value of a hexadecimal digit. -/
def hexDigit? (c : Char) : Option Nat :=
  if '0' ≤ c ∧ c ≤ '9' then some (c.toNat - '0'.toNat)
  else if 'a' ≤ c ∧ c ≤ 'f' then some (c.toNat - 'a'.toNat + 10)
  else if 'A' ≤ c ∧ c ≤ 'F' then some (c.toNat - 'A'.toNat + 10)
  else none

/-- The value of four hexadecimal digits. -/
def hexValue? (a b c d : Char) : Option Nat := do
  some ((← hexDigit? a) * 4096 + (← hexDigit? b) * 256 + (← hexDigit? c) * 16 + (← hexDigit? d))

/-- The character of an escape with one letter. -/
def escaped? : Char → Option Char
  | '"' => some '"'
  | '\\' => some '\\'
  | '/' => some '/'
  | 'b' => some '\x08'
  | 'f' => some '\x0C'
  | 'n' => some '\n'
  | 'r' => some '\r'
  | 't' => some '\t'
  | _ => none

/-- Reads a string behind its opening quote.  The units found so far come last one first. -/
def readString (found : List JsonUnit) : Symbols → Option (List JsonUnit × Symbols)
  | [] => none
  | none :: rest => readString (.gap :: found) rest
  | some '"' :: rest => some (found.reverse, rest)
  | some '\\' :: some 'u' :: some a :: some b :: some c :: some d :: rest =>
    match hexValue? a b c d with
    | some unit => readString (.code unit :: found) rest
    | none => none
  | some '\\' :: some c :: rest =>
    match escaped? c with
    | some c => readString (.char c :: found) rest
    | none => none
  | some c :: rest =>
    if c = '\\' ∨ c.toNat < 0x20 then none else readString (.char c :: found) rest

/-- Whether a code unit begins a surrogate pair. -/
def isLead (unit : Nat) : Bool := 0xD800 ≤ unit && unit < 0xDC00

/-- Whether a code unit ends a surrogate pair. -/
def isTrail (unit : Nat) : Bool := 0xDC00 ≤ unit && unit < 0xE000

/-- The text of a string.  A string with malformed bytes or a lone surrogate has none. -/
def unitsText? : List JsonUnit → Option Text
  | [] => some []
  | .char c :: units => (unitsText? units).map (c :: ·)
  | .code lead :: .code trail :: units =>
    if isLead lead then
      if isTrail trail then
        (unitsText? units).map (Char.ofNat (0x10000 + (lead - 0xD800) * 0x400 + (trail - 0xDC00)) :: ·)
      else none
    else if isTrail lead then none
    else (unitsText? (.code trail :: units)).map (Char.ofNat lead :: ·)
  | .code unit :: units =>
    if isLead unit || isTrail unit then none else (unitsText? units).map (Char.ofNat unit :: ·)
  | .gap :: _ => none

/-! ## Numbers and words -/

/-- The blanks between the parts of a value. -/
def isJsonBlank (c : Option Char) : Bool :=
  c = some ' ' || c = some '\t' || c = some '\n' || c = some '\r'

/-- Drops leading blanks. -/
def skipBlanks (s : Symbols) : Symbols := s.dropWhile isJsonBlank

/-- Whether a symbol is a decimal digit. -/
def isDigit (c : Option Char) : Bool := c.any Char.isDigit

/-- Reads at least one digit. -/
def digits? (s : Symbols) : Option Symbols :=
  if s.head?.any isDigit then some (s.dropWhile isDigit) else none

/-- Reads the integer part of a number, which has no leading zero. -/
def integer? (s : Symbols) : Option Symbols :=
  match s with
  | some '0' :: rest => some rest
  | s => digits? s

/-- Reads the decimal places of a number, if a point announces them. -/
def fraction? (s : Symbols) : Option Symbols :=
  match s with
  | some '.' :: rest => digits? rest
  | s => some s

/-- Reads the exponent of a number, if a letter announces it. -/
def exponent? (s : Symbols) : Option Symbols :=
  match s with
  | some 'e' :: rest | some 'E' :: rest =>
    match rest with
    | some '+' :: rest | some '-' :: rest => digits? rest
    | rest => digits? rest
  | s => some s

/-- Reads a number. -/
def number? (s : Symbols) : Option Symbols :=
  let unsigned := match s with
    | some '-' :: rest => rest
    | s => s
  integer? unsigned >>= fraction? >>= exponent?

/-- Reads a fixed word. -/
def word? (word : Text) (s : Symbols) : Option Symbols :=
  let word : Symbols := word.map some
  if word.isPrefixOf s then some (s.drop word.length) else none

/-! ## Values -/

/-- Reads the values of a list behind its opening bracket, at most `limit` of them. -/
def readElements (value : Symbols → Option (Json × Symbols)) :
    Nat → Symbols → Option (List Json × Symbols)
  | 0, _ => none
  | limit + 1, s => do
    let (first, s) ← value s
    match skipBlanks s with
    | some ',' :: s =>
      let (others, s) ← readElements value limit s
      some (first :: others, s)
    | some ']' :: s => some ([first], s)
    | _ => none

/-- Reads the members of an object behind its opening brace, at most `limit` of them. -/
def readMembers (value : Symbols → Option (Json × Symbols)) :
    Nat → Symbols → Option (List (List JsonUnit × Json) × Symbols)
  | 0, _ => none
  | limit + 1, s =>
    match skipBlanks s with
    | some '"' :: s => do
      let (key, s) ← readString [] s
      match skipBlanks s with
      | some ':' :: s =>
        let (first, s) ← value s
        match skipBlanks s with
        | some ',' :: s =>
          let (others, s) ← readMembers value limit s
          some ((key, first) :: others, s)
        | some '}' :: s => some ([(key, first)], s)
        | _ => none
      | _ => none
    | _ => none

/-- Reads a value that is nested at most `depth` deep and has at most as many parts on each level.
For the number of symbols that are left, neither bound is ever reached. -/
def readValue : Nat → Symbols → Option (Json × Symbols)
  | 0, _ => none
  | depth + 1, s =>
    match skipBlanks s with
    | some '"' :: s => do
      let (units, s) ← readString [] s
      some (.string units, s)
    | some '[' :: s =>
      match skipBlanks s with
      | some ']' :: s => some (.array [], s)
      | s => do
        let (values, s) ← readElements (readValue depth) depth s
        some (.array values, s)
    | some '{' :: s =>
      match skipBlanks s with
      | some '}' :: s => some (.object [], s)
      | s => do
        let (members, s) ← readMembers (readValue depth) depth s
        some (.object members, s)
    | some 't' :: s => do some (.bool true, ← word? "rue".toList s)
    | some 'f' :: s => do some (.bool false, ← word? "alse".toList s)
    | some 'n' :: s => do some (.null, ← word? "ull".toList s)
    | s => do some (.number, ← number? s)

/-- Reads one value with blanks around it and nothing else. -/
def ofSymbols? (s : Symbols) : Option Json := do
  let (value, rest) ← readValue (s.length + 1) s
  if skipBlanks rest = [] then some value else none

/-- The text of a string value. -/
def string? : Json → Option Text
  | .string units => unitsText? units
  | _ => none

/-- The texts of a list of string values. -/
def strings? : Json → Option (List Text)
  | .array values => values.mapM string?
  | _ => none

end Json

end ScriptBundle
