/-
# Edit scripts

A script of commands that edit a text line by line.  A command may be restricted to some lines, and
commands between braces are restricted together.

## Main content

- `EditCommand` is a command, `EditAction` is what it does.
- `EditDraft.readPiece` reads a piece of a script; `EditDraft.finish` checks what the pieces make
  up.
-/
import ScriptBundle.Tool.Whole
import ScriptBundle.Pattern.Reader

namespace ScriptBundle

/-! ## Commands -/

/-- A pattern of a script.  The empty one stands for the last one that was used. -/
structure EditPattern where
  /-- The pattern, if it is not the empty one. -/
  pattern? : Option Pattern
  /-- Whether letters fit without their case. -/
  anyCase : Bool

/-- Where a command begins to apply. -/
inductive EditAddress where
  /-- At the line with a number. -/
  | line (n : Nat)
  /-- At the last line. -/
  | last
  /-- At lines in which a pattern fits. -/
  | pattern (pattern : EditPattern)
  /-- At a line, and from there on at every line that comes some steps later. -/
  | every (first step : Nat)

/-- Where a command ceases to apply. -/
inductive EditStop where
  /-- At an address. -/
  | address (address : EditAddress)
  /-- Some lines later. -/
  | later (count : Nat)
  /-- At the next line with a multiple of a number. -/
  | multiple (n : Nat)

/-- A part of what takes the place of a found text. -/
inductive EditPiece where
  /-- A text. -/
  | text (s : Text)
  /-- The text of a group; the group zero is the whole. -/
  | group (n : Nat)
  /-- A letter that changes the case of what follows. -/
  | letterCase (letter : Char)

/-- What a substitution does. -/
structure EditSubstitution where
  /-- What is looked for. -/
  pattern : EditPattern
  /-- What takes its place. -/
  replacement : List EditPiece
  /-- Whether all places from the first one on are replaced. -/
  all : Bool := false
  /-- The number of the first place that is replaced. -/
  first : Nat := 1
  /-- How often the result is shown. -/
  prints : Nat := 0
  /-- The file that the result is added to. -/
  file : Option Text := none

/-- What a command does. -/
inductive EditAction where
  /-- Begins commands that belong together; they end in front of the command with a number. -/
  | block (stop : Nat)
  /-- Does what its letter says. -/
  | plain (letter : Char)
  /-- Shows a text in front of the line, behind it or instead of it. -/
  | text (letter : Char) (s : Text)
  /-- Goes on behind a label: always, after a substitution, or where there was none. -/
  | jump (letter : Char) (label : Text)
  /-- Marks a place. -/
  | label (name : Text)
  /-- Ends the script with a status. -/
  | quit (letter : Char) (status : Nat)
  /-- Reads or writes a file. -/
  | file (letter : Char) (name : Text)
  /-- Replaces what a pattern finds. -/
  | substitute (substitution : EditSubstitution)
  /-- Replaces single characters. -/
  | translate (pairs : List (Char × Char))

/-- A command with the lines that it applies to. -/
structure EditCommand where
  /-- Where it begins to apply. -/
  first : Option EditAddress := none
  /-- Where it ceases to apply. -/
  last : Option EditStop := none
  /-- Whether it applies to the other lines. -/
  negated : Bool := false
  /-- What it does. -/
  action : EditAction

/-! ## Reading -/

/-- A script while it is read. -/
structure EditDraft where
  /-- What is left of the piece that is read. -/
  rest : Text := []
  /-- How many characters of the piece were read. -/
  position : Nat := 0
  /-- How patterns are written. -/
  dialect : PatternDialect := .basicEdit
  /-- The commands. -/
  commands : Array EditCommand := #[]
  /-- The braces that are open: their commands and the numbers of their pieces. -/
  braces : List (Nat × Nat) := []

/-- Reads parts of a script, or says what is wrong there. -/
abbrev EditReader := StateT EditDraft (Except Text)

namespace EditReader

/-- Reads a character. -/
def next : EditReader (Option Char) := do
  let draft ← get
  match draft.rest with
  | [] => return none
  | c :: rest =>
    set { draft with rest, position := draft.position + 1 }
    return some c

/-- Puts the last character back. -/
def back (c : Option Char) : EditReader Unit := do
  if let some c := c then
    modify fun draft => { draft with rest := c :: draft.rest, position := draft.position - 1 }

/-- Refuses the script at the place that is read. -/
def bad {α : Type} (message : String) : EditReader α := do
  throw ("char ".toList ++ Text.ofNat (← get).position ++ [':', ' '] ++ message.toList)

/-- Reads characters as long as they pass a test. -/
def span (test : Char → Bool) : EditReader Text := do
  let draft ← get
  let (found, rest) := draft.rest.span test
  set { draft with rest, position := draft.position + found.length }
  return found

/-- Whether a character is blank within a line. -/
def isBlank (c : Char) : Bool := c = ' ' || c = '\t'

/-- Reads the next character that is not blank. -/
def nextFull : EditReader (Option Char) := do
  let _ ← span isBlank
  next

/-- Reads a number whose first digit was read already. -/
def number (first : Char) : EditReader Nat := do
  return Numeral.value 10 (first :: (← span Char.isDigit))

/-! ### Texts between delimiters -/

/-- The rest of a set in brackets, behind the opening one.  It is kept as it is. -/
def bracketRest : Nat → Bool → Text → Option (Text × Text)
  | 0, _, _ => none
  | _, _, [] => none
  | _, _, '\n' :: _ => none
  | limit + 1, isFirst, c :: s =>
    match c, s with
    | ']', s => if isFirst then (bracketRest limit false s).map fun (found, rest) => (']' :: found, rest)
        else some ([']'], s)
    | '^', s =>
      (bracketRest limit isFirst s).map fun (found, rest) => ('^' :: found, rest)
    | '[', sign :: s =>
      if sign = ':' ∨ sign = '.' ∨ sign = '=' then
        match Pattern.readClassName sign [] s with
        | some (name, rest) =>
          (bracketRest limit false rest).map fun (found, rest) =>
            (['[', sign] ++ name ++ [sign, ']'] ++ found, rest)
        | none => none
      else (bracketRest limit false (sign :: s)).map fun (found, rest) => ('[' :: found, rest)
    | c, s => (bracketRest limit false s).map fun (found, rest) => (c :: found, rest)

/-- The text up to a delimiter, and what follows.  A delimiter behind a backslash belongs to the
text. -/
def delimited (delimiter : Char) (isPattern : Bool) : Nat → Text → Option (Text × Text)
  | 0, _ => none
  | limit + 1, s =>
    let onward (front rest : Text) : Option (Text × Text) :=
      (delimited delimiter isPattern limit rest).map fun (found, rest) => (front ++ found, rest)
    match s with
    | [] => none
    | '\\' :: c :: rest =>
      if c = delimiter then
        onward (if !isPattern && c = '&' then ['\\', '&'] else [c]) rest
      else if c = 'n' ∧ isPattern then onward ['\n'] rest
      else if c = '\n' then onward (if isPattern then ['\n'] else ['\\', '\n']) rest
      else onward ['\\', c] rest
    | ['\\'] => none
    | '\n' :: _ => none
    | '[' :: rest =>
      if delimiter = '[' then some ([], rest)
      else if isPattern then
        match bracketRest rest.length true rest with
        | some (inside, rest) => onward ('[' :: inside) rest
        | none => none
      else onward ['['] rest
    | c :: rest => if c = delimiter then some ([], rest) else onward [c] rest

/-- Reads the text up to a delimiter. -/
def readDelimited (delimiter : Char) (isPattern : Bool) (message : String) : EditReader Text := do
  let draft ← get
  match delimited delimiter isPattern (draft.rest.length + 1) draft.rest with
  | some (found, rest) =>
    set { draft with rest, position := draft.position + (draft.rest.length - rest.length) }
    return found
  | none =>
    set { draft with rest := [], position := draft.position + draft.rest.length }
    bad message

/-! ### Patterns and replacements -/

/-- Whether a character means something in patterns. -/
def isSpecial (c : Char) : Bool := "*.[]^$\\/+?()\x7b\x7d|&\n".toList.contains c

/-- The character that a row of digits behind an escape stands for. -/
def numbered? (s : Text) : Option (Char × Text) :=
  match s with
  | 'x' :: c :: s =>
    if Numeral.isDigit 16 c then
      let (n, rest) := Numeral.readLimited 16 2 (c :: s)
      some (Char.ofNat n, rest)
    else none
  | 'o' :: c :: s =>
    if Numeral.isDigit 8 c then
      let (n, rest) := Numeral.readLimited 8 3 (c :: s)
      some (Char.ofNat (n % 256), rest)
    else none
  | 'd' :: c :: s =>
    if c.isDigit then
      let (n, rest) := Numeral.readLimited 10 3 (c :: s)
      some (Char.ofNat (n % 256), rest)
    else none
  | 'c' :: c :: s => some (Char.ofNat (c.toUpper.toNat ^^^ 64), s)
  | _ => none

/-- Writes the characters that are given by numbers as characters. -/
def withNumbered : Nat → Text → Text
  | 0, s => s
  | limit + 1, s =>
    match s with
    | [] => []
    | '\\' :: rest =>
      match numbered? rest with
      | some (c, rest) => (if isSpecial c then ['\\', c] else [c]) ++ withNumbered limit rest
      | none => '\\' :: rest.take 1 ++ withNumbered limit (rest.drop 1)
    | c :: rest => c :: withNumbered limit rest

/-- Makes a pattern of its text. -/
def makePattern (s : Text) (anyCase byLines : Bool) : EditReader EditPattern := do
  if s = [] then return ⟨none, anyCase⟩
  match Pattern.ofText? (← get).dialect (withNumbered s.length s) with
  | .ok pattern => return ⟨some (if byLines then pattern.byLines else pattern), anyCase⟩
  | .error fault => bad (String.ofList fault.text)

/-- Puts a character in front of pieces. -/
def consChar (c : Char) : List EditPiece → List EditPiece
  | .text s :: pieces => .text (c :: s) :: pieces
  | pieces => .text [c] :: pieces

/-- Reads what takes the place of a found text. -/
def replacement : Nat → Text → List EditPiece
  | 0, _ => []
  | limit + 1, s =>
    match s with
    | [] => []
    | '&' :: rest => .group 0 :: replacement limit rest
    | '\\' :: c :: rest =>
      if c.isDigit then .group (c.toNat - '0'.toNat) :: replacement limit rest
      else if c ∈ ['L', 'U', 'E', 'l', 'u'] then .letterCase c :: replacement limit rest
      else
        match PatternDialect.escaped? c with
        | some escaped => consChar escaped (replacement limit rest)
        | none => consChar c (replacement limit rest)
    | c :: rest => consChar c (replacement limit rest)

/-- The greatest group that pieces refer to. -/
def greatestGroup (pieces : List EditPiece) : Nat :=
  pieces.foldl
    (fun greatest piece =>
      match piece with
      | .group n => max greatest n
      | _ => greatest)
    0

/-! ### Addresses -/

/-- Reads the flags of a pattern that is an address. -/
def addressFlags : Nat → Bool → Bool → EditReader (Bool × Bool)
  | 0, anyCase, byLines => return (anyCase, byLines)
  | limit + 1, anyCase, byLines => do
    match ← next with
    | some 'I' => addressFlags limit true byLines
    | some 'M' => addressFlags limit anyCase true
    | c =>
      back c
      return (anyCase, byLines)

/-- Reads an address that begins with a character. -/
def address (c : Option Char) : EditReader (Option EditAddress) := do
  let pattern (delimiter : Char) : EditReader (Option EditAddress) := do
    let text ← readDelimited delimiter true "unterminated address regex"
    let position := (← get).position
    let (anyCase, byLines) ← addressFlags 100 false false
    let after := (← get).position
    modify fun draft => { draft with position }
    let pattern ← makePattern text anyCase byLines
    modify fun draft => { draft with position := after }
    return some (.pattern pattern)
  match c with
  | some '$' => return some .last
  | some '/' => pattern '/'
  | some '\\' =>
    match ← next with
    | some delimiter => pattern delimiter
    | none => bad "unexpected ','"
  | some c =>
    if c.isDigit then
      let first ← number c
      let _ ← span isBlank
      match ← next with
      | some '~' =>
        let _ ← span isBlank
        match ← next with
        | some d =>
          if d.isDigit then
            let step ← number d
            return some (if step = 0 then .line first else .every first step)
          else
            back (some d)
            return some (.line first)
        | none => return some (.line first)
      | other =>
        back other
        return some (.line first)
    else return none
  | none => return none

/-- Reads where a command ceases to apply. -/
def stop (c : Option Char) : EditReader (Option EditStop) := do
  let amount (make : Nat → EditStop) : EditReader (Option EditStop) := do
    match ← nextFull with
    | some d => if d.isDigit then return some (make (← number d)) else bad "expected number"
    | none => bad "expected number"
  match c with
  | some '+' => amount .later
  | some '~' => amount .multiple
  | c => return (← address c).map .address

/-! ### Commands -/

/-- Reads the end of a command. -/
def endCommand : EditReader Unit := do
  match ← nextFull with
  | none | some '\n' | some ';' => return ()
  | some '\x7d' => back (some '\x7d')
  | some '#' => back (some '#')
  | some _ => bad "extra characters after command"

/-- The text of a command up to the end of its line.  A backslash takes the meaning of the next
character away, also of the end of a line. -/
def lineText : Nat → Text → Text × Text
  | 0, s => ([], s)
  | limit + 1, s =>
    match s with
    | [] => ([], [])
    | '\n' :: rest => ([], rest)
    | '\\' :: c :: rest =>
      let (found, rest) := lineText limit rest
      ((PatternDialect.escaped? c).getD c :: found, rest)
    | ['\\'] => ([], [])
    | c :: rest =>
      let (found, rest) := lineText limit rest
      (c :: found, rest)

/-- Reads the text of a command. -/
def commandText : EditReader Text := do
  let missing : EditReader Unit := bad "expected \\ after \x60a', \x60c' or \x60i'"
  match ← nextFull with
  | none => missing
  | some '\\' =>
    let blanks ← span isBlank
    match ← next with
    | some '\n' => pure ()
    | c =>
      back c
      for blank in blanks.reverse do back (some blank)
  | c => back c
  let draft ← get
  let (found, rest) := lineText (draft.rest.length + 1) draft.rest
  set { draft with rest, position := draft.position + (draft.rest.length - rest.length) }
  return if draft.rest = [] then [] else found ++ ['\n']

/-- Reads a label or the name of a file. -/
def label : EditReader Text := do
  let _ ← span isBlank
  span fun c => c ≠ '\n' && c ≠ ';' && c ≠ ' ' && c ≠ '\t'

/-- Reads the name of a file, up to the end of the line. -/
def fileName : EditReader Text := do
  let _ ← span isBlank
  let name ← span (· ≠ '\n')
  if name = [] then bad "missing filename in r/R/w/W commands"
  let _ ← next
  return name

/-- Reads the flags of a substitution. -/
def substitutionFlags : Nat → EditSubstitution → Bool → Bool →
    EditReader (EditSubstitution × Bool × Bool)
  | 0, s, anyCase, byLines => return (s, anyCase, byLines)
  | limit + 1, s, anyCase, byLines => do
    match ← next with
    | some 'i' | some 'I' => substitutionFlags limit s true byLines
    | some 'm' | some 'M' => substitutionFlags limit s anyCase true
    | some 'p' =>
      if s.prints ≠ 0 then bad "multiple \x60p' options to \x60s' command"
      substitutionFlags limit { s with prints := s.prints + 1 } anyCase byLines
    | some 'g' =>
      if s.all then bad "multiple \x60g' options to \x60s' command"
      substitutionFlags limit { s with all := true } anyCase byLines
    | some 'w' => return ({ s with file := some (← fileName) }, anyCase, byLines)
    | none | some '\n' | some ';' => return (s, anyCase, byLines)
    | some '\x7d' =>
      back (some '\x7d')
      return (s, anyCase, byLines)
    | some '#' =>
      back (some '#')
      return (s, anyCase, byLines)
    | some ' ' | some '\t' => substitutionFlags limit s anyCase byLines
    | some c =>
      if c.isDigit then
        let first ← number c
        if s.first ≠ 1 then bad "multiple number options to \x60s' command"
        if first = 0 then bad "number option to \x60s' command may not be zero"
        substitutionFlags limit { s with first } anyCase byLines
      else bad "unknown option to \x60s'"

/-- Reads a substitution behind its letter. -/
def substitution : EditReader EditAction := do
  let message := "unterminated \x60s' command"
  match ← next with
  | none => bad message
  | some delimiter =>
    let text ← readDelimited delimiter true message
    let shown ← readDelimited delimiter false message
    let pieces := replacement (shown.length + 1) (withNumbered shown.length shown)
    let (s, anyCase, byLines) ← substitutionFlags 1000 { pattern := ⟨none, false⟩, replacement := pieces }
      false false
    let pattern ← makePattern text anyCase byLines
    let greatest := greatestGroup pieces
    if let some found := pattern.pattern? then
      if found.groupCount < greatest then
        bad ("invalid reference \\" ++ toString greatest ++ " on \x60s' command's RHS")
    return .substitute { s with pattern }

/-- The characters of a list for a translation. -/
def plainChars : Text → Option Text
  | [] => some []
  | '\\' :: '\\' :: s => (plainChars s).map ('\\' :: ·)
  | '\\' :: c :: s =>
    match PatternDialect.escaped? c with
    | some escaped => (plainChars s).map (escaped :: ·)
    | none => if c = '\n' then (plainChars s).map ('\n' :: ·) else (plainChars s).map fun found => '\\' :: c :: found
  | c :: s => (plainChars s).map (c :: ·)

/-- Reads a translation behind its letter. -/
def translation : EditReader EditAction := do
  let message := "unterminated \x60y' command"
  match ← next with
  | none => bad message
  | some delimiter =>
    let source ← readDelimited delimiter false message
    let target ← readDelimited delimiter false message
    match plainChars source, plainChars target with
    | some source, some target =>
      if source.length ≠ target.length then
        bad "strings for \x60y' command are different lengths"
      endCommand
      return .translate (source.zip target)
    | _, _ => bad message

/-- Adds a command. -/
def emit (command : EditCommand) : EditReader Unit :=
  modify fun draft => { draft with commands := draft.commands.push command }

/-- Reads what a command does, by its letter. -/
def action (piece : Nat) (first : Option EditAddress) (last : Option EditStop) (negated : Bool)
    (letter : Char) : EditReader Unit := do
  let add (action : EditAction) : EditReader Unit := emit { first, last, negated, action }
  let single (action : EditReader EditAction) : EditReader Unit := do
    if last.isSome then bad "command only uses one address"
    add (← action)
  let letterAlone : EditReader EditAction := do
    endCommand
    return .plain letter
  match letter with
  | '\x7b' =>
    modify fun draft => { draft with braces := (draft.commands.size, piece) :: draft.braces }
    add (.block 0)
  | '\x7d' =>
    match (← get).braces with
    | [] => bad "unexpected \x60\x7d'"
    | (opening, _) :: others =>
      if first.isSome then bad "\x7d doesn't want any addresses"
      endCommand
      modify fun draft =>
        { draft with
          braces := others
          commands := draft.commands.modify opening fun command =>
            { command with action := .block draft.commands.size } }
  | '#' =>
    if first.isSome then bad "comments don't accept any addresses"
    let _ ← span (· ≠ '\n')
    let _ ← next
  | ':' =>
    if first.isSome then bad ": doesn't want any addresses"
    let name ← label
    if name = [] then bad "\":\" lacks a label"
    add (.label name)
  | 's' => add (← substitution)
  | 'y' => add (← translation)
  | 'q' | 'Q' => single do
      let c ← nextFull
      let status ← match c with
        | some d => if d.isDigit then number d else do back c; pure 0
        | none => pure 0
      endCommand
      return .quit letter status
  | 'l' | 'L' => do
      let c ← nextFull
      match c with
      | some d => if d.isDigit then let _ ← number d else back c
      | none => pure ()
      add (← letterAlone)
  | '=' | 'd' | 'D' | 'e' | 'F' | 'g' | 'G' | 'h' | 'H' | 'n' | 'N' | 'p' | 'P' | 'x' | 'z' =>
    add (← letterAlone)
  | 'a' | 'i' | 'c' => add (.text letter (← commandText))
  | 'b' | 't' | 'T' =>
    let name ← label
    endCommand
    add (.jump letter name)
  | 'r' | 'R' | 'w' | 'W' => add (.file letter (← fileName))
  | 'v' =>
    let _ ← label
    endCommand
  | letter => bad ("unknown command: \x60" ++ String.ofList [letter] ++ "'")

/-- Reads a command.  The answer is whether there was one. -/
def command (piece : Nat) : EditReader Bool := do
  let _ ← span fun c => isBlank c || c = '\n' || c = ';'
  match ← next with
  | none => return false
  | c =>
    let first ← address c
    let mut c := c
    let mut last : Option EditStop := none
    if first.isSome then
      c ← nextFull
      if c = some ',' then
        last ← stop (← nextFull)
        if last.isNone then bad "unexpected \x60,'"
        c ← nextFull
    if let some (.line 0) := first then
      match last with
      | some (.address (.pattern _)) => pure ()
      | _ => bad "invalid usage of line address 0"
    let mut negated := false
    if c = some '!' then
      negated := true
      c ← nextFull
      if c = some '!' then bad "multiple \x60!'s"
    match c with
    | none => bad "missing command"
    | some letter =>
      action piece first last negated letter
      return true

/-- Reads commands up to the end of the piece. -/
def commands (piece : Nat) : Nat → EditReader Unit
  | 0 => return ()
  | limit + 1 => do
    if ← command piece then commands piece limit

end EditReader

namespace EditDraft

/-- Reads a piece of a script. -/
def readPiece (draft : EditDraft) (piece : Nat) (s : Text) : Except Text EditDraft :=
  ((EditReader.commands piece (s.length + 1)).run { draft with rest := s, position := 0 }).map (·.2)

/-- Where a label stands. -/
def labelPlace? (draft : EditDraft) (name : Text) : Option Nat :=
  if name = [] then some draft.commands.size
  else draft.commands.findIdx? fun command =>
    match command.action with
    | .label label => label = name
    | _ => false

/-- The first label that is jumped to and does not stand anywhere. -/
def missingLabel? (draft : EditDraft) : Option Text :=
  draft.commands.toList.findSome? fun command =>
    match command.action with
    | .jump _ name => if (draft.labelPlace? name).isNone then some name else none
    | _ => none

end EditDraft

end ScriptBundle
