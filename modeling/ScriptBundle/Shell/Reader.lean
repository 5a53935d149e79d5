/-
# Reading commands

Commands are read line by line: a command that is complete is carried out before the next line is
read.

## Main content

- `Reader` reads tokens from a script and keeps track of the line.
- `Script.next` reads the next complete command of a script.
-/
import ScriptBundle.Shell.Command

namespace ScriptBundle

namespace Shell

/-! ## Tokens -/

/-- A token. -/
inductive Token where
  /-- The end of the script. -/
  | finish
  /-- The end of a line. -/
  | newline
  /-- An operator. -/
  | sign (s : String)
  /-- A redirection. -/
  | redirection
  /-- A word. -/
  | word
  /-- A word that means something where a command begins. -/
  | keyword (s : String)
  deriving DecidableEq

/-- What a token is called. -/
def Token.name : Token → Text
  | .finish => "end of file".toList
  | .newline => "newline".toList
  | .sign s => ['"'] ++ s.toList ++ ['"']
  | .redirection => "redirection".toList
  | .word => "word".toList
  | .keyword s => ['"'] ++ s.toList ++ ['"']

/-- The words that mean something where a command begins. -/
def keywords : List String :=
  ["!", "case", "do", "done", "elif", "else", "esac", "fi", "for", "if", "in", "then", "until",
    "while", "\x7b", "\x7d"]

/-- A document that begins with the next line. -/
structure PendingDocument where
  /-- Its number. -/
  number : Nat
  /-- The line that ends it. -/
  stop : Text
  /-- Whether parameters in it stand for their values. -/
  expands : Bool
  /-- Whether tabs at the starts of its lines are dropped. -/
  dropsTabs : Bool

/-- What is wrong with a script. -/
structure SyntaxFault where
  /-- The number of the line. -/
  line : Nat
  /-- What is wrong. -/
  message : Text

/-- A script that is being read. -/
structure Script where
  /-- What is left of it. -/
  rest : Text
  /-- The number of the line. -/
  line : Nat := 1
  /-- The token that was read last. -/
  last : Token := .finish
  /-- Whether that token is read again. -/
  isBack : Bool := false
  /-- The word that was read last. -/
  word : Word := []
  /-- Whether a part of the word was quoted. -/
  isQuoted : Bool := false
  /-- The redirection that was read last: its handle and its sign. -/
  arrow : Nat × Text := (0, [])
  /-- The documents that begin with the next line. -/
  pending : List PendingDocument := []
  /-- The documents that were read. -/
  documents : List (Nat × Word) := []
  /-- The number of the next document. -/
  nextDocument : Nat := 0

/-- Reads parts of a script. -/
abbrev Reader := StateT Script (Except SyntaxFault)

namespace Reader

/-- Refuses the script on the line that is read. -/
def refuse {α : Type} (message : Text) : Reader α := do
  throw ⟨(← get).line, message⟩

/-- Refuses the token that was read last.  Another one may have been expected. -/
def unexpected {α : Type} (expected : Option Token) : Reader α := do
  let name := (← get).last.name ++ " unexpected".toList
  match expected with
  | some token => refuse (name ++ " (expecting ".toList ++ token.name ++ [')'])
  | none => refuse name

/-! ## Characters -/

/-- Reads a character as it is. -/
def next : Reader (Option Char) := do
  let s ← get
  match s.rest with
  | [] => return none
  | c :: rest =>
    set { s with rest, line := if c = '\n' then s.line + 1 else s.line }
    return some c

/-- Skips ends of lines behind backslashes. -/
def skipJoins : Nat → Reader Unit
  | 0 => return ()
  | limit + 1 => do
    let s ← get
    match s.rest with
    | '\\' :: '\n' :: rest =>
      set { s with rest, line := s.line + 1 }
      skipJoins limit
    | _ => return ()

/-- The next character, behind ends of lines that are joined. -/
def peek : Reader (Option Char) := do
  if "\\\n".toList.isPrefixOf (← get).rest then skipJoins (← get).rest.length
  return (← get).rest.head?

/-- Reads a character, behind ends of lines that are joined. -/
def nextJoined : Reader (Option Char) := do
  let _ ← peek
  next

/-- Takes a character if it is the next one. -/
def take (c : Char) : Reader Bool := do
  if (← peek) = some c then
    let _ ← next
    return true
  else return false

/-- Reads characters as long as they pass a test. -/
def takeWhile (test : Char → Bool) : Nat → Reader Text
  | 0 => return []
  | limit + 1 => do
    match ← peek with
    | some c =>
      if test c then
        let _ ← next
        return c :: (← takeWhile test limit)
      else return []
    | none => return []

/-! ## Words -/

/-- Where a part of a word stands. -/
structure Place where
  /-- Whether it stands between double quotes, or in a document. -/
  isDouble : Bool := false
  /-- Whether it stands in the braces of a parameter. -/
  inBraces : Bool := false
  /-- The document that it stands in, if any. -/
  document : Option PendingDocument := none
  /-- Whether it stands in an arithmetic expression. -/
  inArithmetic : Bool := false
  /-- Whether it is the word that ends a document. -/
  isStop : Bool := false
  /-- Whether the braces are quoted again inside. -/
  inInner : Bool := false

/-- How the parts inside a word or command are read. -/
structure Inner where
  /-- Reads parts of a word. -/
  parts : Place → Reader Word
  /-- Reads commands.  A number says where they may end. -/
  list : Nat → Reader Command

/-- Puts neighbouring parts of one kind together. -/
def merge (word : Word) : Word :=
  word.foldr
    (fun part rest =>
      match part, rest with
      | .bare s, .bare t :: rest => .bare (s ++ t) :: rest
      | .quoted s, .quoted t :: rest => .quoted (s ++ t) :: rest
      | part, rest => part :: rest)
    []

/-- Whether a character names a parameter by itself. -/
def isSpecial (c : Char) : Bool := "@*#?-$!".toList.contains c || c.isDigit

/-- Reads the words of a text as a script of its own. -/
def inOwnText {α : Type} (text : Text) (reader : Reader α) : Reader α := do
  let outer ← get
  set { outer with rest := text, line := 1, isBack := false, pending := [] }
  let result ← reader
  modify fun s =>
    { outer with documents := s.documents, nextDocument := s.nextDocument }
  return result

/-- Reads the text between backquotes. -/
def backquoted (isDouble : Bool) : Nat → Reader Text
  | 0 => refuse "EOF in backquote substitution".toList
  | limit + 1 => do
    match ← nextJoined with
    | none => refuse "EOF in backquote substitution".toList
    | some '\x60' => return []
    | some '\\' =>
      match ← next with
      | none => refuse "EOF in backquote substitution".toList
      | some c =>
        let kept := c = '\\' || c = '\x60' || c = '$' || (isDouble && c = '"')
        let rest ← backquoted isDouble limit
        return if kept then c :: rest else '\\' :: c :: rest
    | some c => return c :: (← backquoted isDouble limit)

/-- Reads commands in parentheses, behind the opening one, up to the closing one. -/
def parenthesized (inner : Inner) : Reader Command := do
  let pending := (← get).pending
  modify fun s => { s with pending := [], isBack := false }
  let command ← inner.list 2
  if (← get).last ≠ .sign ")" then unexpected (some (.sign ")"))
  modify fun s => { s with pending, isBack := false }
  return command

/-- How a parameter in braces is used: the sign behind its name, and the word that belongs to it. -/
def useOf (inner : Inner) (place : Place) : Reader ParameterUse := do
  let inWord : Place :=
    { isDouble := place.isDouble, inBraces := true, document := place.document }
  let inForm : Place := { inBraces := true, document := place.document }
  match ← nextJoined with
  | some '\x7d' => return .plain
  | some ':' =>
    match ← nextJoined with
    | some c =>
      if "-+?=".toList.contains c then return .instead c true (← inner.parts inWord)
      else
        let _ ← inner.parts inWord
        return .unknown
    | none =>
      let _ ← inner.parts inWord
      return .unknown
  | some '#' => return .without false (← take '#') (← inner.parts inForm)
  | some '%' => return .without true (← take '%') (← inner.parts inForm)
  | some c =>
    if "-+?=".toList.contains c then return .instead c false (← inner.parts inWord)
    else
      let _ ← inner.parts inWord
      return .unknown
  | none =>
    let _ ← inner.parts inWord
    return .unknown

/-- Reads a name of letters and digits. -/
def readName : Reader Text := do takeWhile continuesName (← get).rest.length

/-- Reads a parameter in braces, behind the opening one. -/
def braced (inner : Inner) (place : Place) : Reader WordPart := do
  let isQuoted := place.isDouble
  let limit := (← get).rest.length
  let inWord : Place :=
    { isDouble := place.isDouble, inBraces := true, document := place.document }
  let bad : Reader WordPart := do
    let _ ← inner.parts inWord
    return .parameter [] .unknown isQuoted
  let lengthOf (name : Text) : Reader WordPart := do
    if ← take '\x7d' then return .parameter name .length isQuoted
    else
      let _ ← inner.parts inWord
      return .parameter name .unknown isQuoted
  match ← peek with
  | none => bad
  | some c =>
    if startsName c then
      let name ← readName
      return .parameter name (← useOf inner place) isQuoted
    else if c.isDigit then
      let name ← takeWhile Char.isDigit limit
      return .parameter name (← useOf inner place) isQuoted
    else if c = '\x7d' then bad
    else
      let _ ← next
      if c = '#' then
        match ← peek with
        | some d =>
          if continuesName d then
            let name ← if d.isDigit then takeWhile Char.isDigit limit else readName
            lengthOf name
          else if d = '\x7d' then return .parameter ['#'] (← useOf inner place) isQuoted
          else
            let saved ← get
            let _ ← next
            if isSpecial d && (← peek) = some '\x7d' then
              let _ ← next
              return .parameter [d] .length isQuoted
            else
              set saved
              return .parameter ['#'] (← useOf inner place) isQuoted
        | none => bad
      else if isSpecial c then return .parameter [c] (← useOf inner place) isQuoted
      else bad

/-- Reads what a dollar sign stands for. -/
def dollar (inner : Inner) (place : Place) : Reader Word := do
  let isQuoted := place.isDouble
  let literal : WordPart := if isQuoted then .quoted ['$'] else .bare ['$']
  if place.isStop then return [literal]
  match ← peek with
  | none => return [literal]
  | some c =>
    if c = '(' then
      let _ ← next
      if ← take '(' then
        let expression ← inner.parts { isDouble := true, inArithmetic := true }
        return [.arithmetic expression isQuoted]
      else
        return [.output (← parenthesized inner) isQuoted]
    else if c = '\x7b' then
      let _ ← next
      return [← braced inner place]
    else if startsName c then return [.parameter (← readName) .plain isQuoted]
    else if isSpecial c then
      let _ ← next
      return [.parameter [c] .plain isQuoted]
    else return [literal]

/-- Reads what a backslash and the next character stand for. -/
def escaped (place : Place) : Reader WordPart := do
  match ← next with
  | none => return .quoted ['\\']
  | some c =>
    let kept := place.isDouble && c ≠ '\\' && c ≠ '\x60' && c ≠ '$' &&
      (c ≠ '"' || (place.document.isSome && !place.inBraces)) && (c ≠ '\x7d' || !place.inBraces)
    return .quoted (if kept then ['\\', c] else [c])

/-- Reads the text between single quotes. -/
def singleQuoted : Nat → Reader Text
  | 0 => refuse "Unterminated quoted string".toList
  | limit + 1 => do
    match ← next with
    | none => refuse "Unterminated quoted string".toList
    | some '\'' => return []
    | some c => return c :: (← singleQuoted limit)

/-- Whether a character ends a word. -/
def endsWord (c : Char) : Bool := " \t\n;&|<>()".toList.contains c

/-- Whether a document ends here.  The line that ends it is taken. -/
def takeStop (document : PendingDocument) : Reader Bool := do
  if document.expands then
    let _ ← peek
  let s ← get
  let rest := if document.dropsTabs then s.rest.dropWhile (· = '\t') else s.rest
  let line := rest.takeWhile (· ≠ '\n')
  if line = document.stop then
    set { s with rest := (rest.drop line.length).drop 1, line := s.line + 1 }
    return true
  else
    set { s with rest }
    return false

/-- Reads the parts of a word up to where they end.  The parts found so far are given in reverse,
and so is the depth of parentheses in an arithmetic expression. -/
def partsFrom (inner : Inner) : Nat → Place → Nat → Word → Reader Word
  | 0, _, _, found => return found.reverse
  | limit + 1, place, depth, found => do
    let add (part : WordPart) : Reader Word := partsFrom inner limit place depth (part :: found)
    let literal (c : Char) : WordPart := if place.isDouble then .quoted [c] else .bare [c]
    match ← peek with
    | none =>
      if place.inArithmetic then refuse "Missing '))'".toList
      else if place.isDouble && place.document.isNone then refuse "Unterminated quoted string".toList
      else if place.inBraces then refuse "Missing '\x7d'".toList
      else return found.reverse
    | some c =>
      if !place.isDouble && !place.inBraces && endsWord c then return found.reverse
      let _ ← next
      match c with
      | '\\' => add (← escaped place)
      | '$' =>
        let parts ← dollar inner place
        partsFrom inner limit place depth (parts.reverse ++ found)
      | '\x60' =>
        if place.isStop then add (literal c)
        else
          let text ← backquoted place.isDouble ((← get).rest.length + 1)
          let command ← inOwnText text (inner.list 2)
          add (.output command place.isDouble)
      | '\'' =>
        if place.isDouble then add (literal c)
        else
          let text ← singleQuoted ((← get).rest.length + 1)
          partsFrom inner limit place depth (.mark :: .quoted text :: .mark :: found)
      | '"' =>
        if place.inArithmetic then add (literal c)
        else if place.isDouble then
          if place.inBraces then
            partsFrom inner limit { place with inInner := !place.inInner } depth (.mark :: found)
          else if place.document.isSome then add (literal c)
          else return found.reverse
        else
          let inside ← inner.parts { isDouble := true }
          let word : Word := match inside with
            | [.parameter ['@'] .plain _] => [.arguments]
            | inside => [.mark] ++ inside ++ [.mark]
          partsFrom inner limit place depth (word.reverse ++ found)
      | '\x7d' =>
        if place.inBraces && !place.inInner then return found.reverse else add (literal c)
      | '(' =>
        if place.inArithmetic then partsFrom inner limit place (depth + 1) (literal c :: found)
        else add (literal c)
      | ')' =>
        if place.inArithmetic then
          if depth ≠ 0 then partsFrom inner limit place (depth - 1) (literal c :: found)
          else if ← take ')' then return found.reverse
          else add (literal c)
        else add (literal c)
      | '\n' =>
        match place.document with
        | some document =>
          if ← takeStop document then
            if place.inBraces then refuse "Missing '\x7d'".toList
            else return (literal c :: found).reverse
          else add (literal c)
        | none => add (literal c)
      | c => add (literal c)

/-- Reads the parts of a word up to where they end. -/
def partsAt (inner : Inner) (place : Place) : Reader Word := do
  return merge (← partsFrom inner ((← get).rest.length + 2) place 0 [])

/-! ## Documents -/

/-- Reads the lines of a document in which nothing stands for anything else. -/
def plainLines (document : PendingDocument) : Nat → Reader Text
  | 0 => return []
  | limit + 1 => do
    if ← takeStop document then return []
    let s ← get
    let line := s.rest.takeWhile (· ≠ '\n')
    match s.rest.drop line.length with
    | [] =>
      set { s with rest := [] }
      return line
    | newline :: rest =>
      set { s with rest, line := s.line + 1 }
      return line ++ newline :: (← plainLines document limit)

/-- Reads the documents that begin here. -/
def documents (inner : Inner) : Reader Unit := do
  let pending := (← get).pending
  modify fun s => { s with pending := [] }
  for document in pending do
    let word ← if document.expands then do
        if ← takeStop document then pure []
        else inner.parts { isDouble := true, document := some document }
      else do
        pure [.quoted (← plainLines document ((← get).rest.length + 1))]
    modify fun s => { s with documents := (document.number, word) :: s.documents }

/-! ## Tokens -/

/-- Skips blanks and comments. -/
def skipBlanks : Nat → Reader Unit
  | 0 => return ()
  | limit + 1 => do
    match ← peek with
    | some c =>
      if c = ' ' ∨ c = '\t' then
        let _ ← next
        skipBlanks limit
      else if c = '#' then
        modify fun s => { s with rest := s.rest.dropWhile (· ≠ '\n') }
      else return ()
    | none => return ()

/-- Reads a redirection, behind the handle that may stand in front of it. -/
def readArrow (handle : Option Nat) : Reader Token := do
  let first ← next
  let (usual, sign) ←
    if first = some '>' then do
      if ← take '>' then pure (1, ">>")
      else if ← take '|' then pure (1, ">|")
      else if ← take '&' then pure (1, ">&")
      else pure (1, ">")
    else do
      if ← take '<' then
        if ← take '-' then pure (0, "<<-") else pure (0, "<<")
      else if ← take '&' then pure (0, "<&")
      else if ← take '>' then pure (0, "<>")
      else pure (0, "<")
  modify fun s => { s with arrow := (handle.getD usual, sign.toList) }
  return .redirection

/-- Reads a token from the script. -/
def readToken (inner : Inner) (isStop : Bool) : Reader Token := do
  skipBlanks ((← get).rest.length + 1)
  let either (c : Char) (single double : String) : Reader Token := do
    let _ ← next
    if ← take c then return .sign double else return .sign single
  match ← peek with
  | none => return .finish
  | some c =>
    match c with
    | '\n' =>
      let _ ← next
      return .newline
    | '&' => either '&' "&" "&&"
    | '|' => either '|' "|" "||"
    | ';' => either ';' ";" ";;"
    | '(' =>
      let _ ← next
      return .sign "("
    | ')' =>
      let _ ← next
      return .sign ")"
    | c =>
      if c = '<' ∨ c = '>' then readArrow none
      else
        let word ← inner.parts { isStop }
        let s ← get
        match word, s.rest.head? with
        | [.bare [d]], some arrow =>
          if d.isDigit ∧ (arrow = '<' ∨ arrow = '>') then
            return ← readArrow (some (d.toNat - '0'.toNat))
        | _, _ => pure ()
        set { s with word, isQuoted := hasQuoted word }
        return .word
where
  /-- Whether a part of a word is quoted. -/
  hasQuoted (word : Word) : Bool :=
    word.any fun part =>
      match part with
      | .quoted _ | .mark | .arguments => true
      | _ => false

/-- Reads tokens up to one that is no end of a line. -/
def readPastNewlines (inner : Inner) (isStop : Bool) : Nat → Token → Reader Token
  | 0, token => return token
  | limit + 1, token => do
    if token = .newline then
      documents inner
      readPastNewlines inner isStop limit (← readToken inner isStop)
    else return token

/-- Reads the next token.  Ends of lines may be skipped, and words may be keywords. -/
def token (inner : Inner) (skips finds : Bool) (isStop : Bool := false) : Reader Token := do
  let s ← get
  let first ←
    if s.isBack then do
      set { s with isBack := false }
      pure s.last
    else readToken inner isStop
  let found ← if skips then readPastNewlines inner isStop ((← get).rest.length + 2) first
    else pure first
  let s ← get
  let found := match found with
    | .word =>
      if finds && !s.isQuoted then
        match bareText? s.word with
        | some text =>
          match keywords.find? fun keyword => keyword.toList = text with
          | some keyword => Token.keyword keyword
          | none => .word
        | none => .word
      else .word
    | other => other
  modify fun s => { s with last := found }
  return found

/-- Puts the last token back. -/
def back : Reader Unit := modify fun s => { s with isBack := true }

/-! ## Commands -/

/-- Whether commands between words may end with a token. -/
def endsList (token : Token) : Bool :=
  match token with
  | .finish => true
  | .sign s => s = ")" || s = ";;"
  | .keyword s => ["do", "done", "elif", "else", "esac", "fi", "then", "\x7d"].contains s
  | _ => false

/-- Joins two commands. -/
def andThen (first second : Command) : Command :=
  match first, second with
  | .nothing, second => second
  | first, .nothing => first
  | first, second => .sequence first second

/-- Reads the target of a redirection. -/
def readTarget (inner : Inner) : Reader Redirection := do
  let (handle, sign) := (← get).arrow
  let isDocument := sign = "<<".toList || sign = "<<-".toList
  if (← token inner false false isDocument) ≠ .word then unexpected none
  let s ← get
  if isDocument then
    let stop := s.word.flatMap fun part =>
      match part with
      | .bare t | .quoted t => t
      | _ => []
    let number := s.nextDocument
    let document : PendingDocument :=
      { number, stop, expands := !s.isQuoted, dropsTabs := sign = "<<-".toList }
    modify fun s => { s with nextDocument := number + 1, pending := s.pending ++ [document] }
    return .document handle number
  else return .file handle sign s.word

/-- Reads redirections behind a command. -/
def readRedirections (inner : Inner) : Nat → Bool → Reader (List Redirection)
  | 0, _ => return []
  | limit + 1, finds => do
    if (← token inner false finds) = .redirection then
      let first ← readTarget inner
      return first :: (← readRedirections inner limit false)
    else
      back
      return []

/-- The name and the value of a word that gives a value. -/
def assignment? (word : Word) : Option (Text × Word) :=
  match word with
  | .bare s :: rest =>
    let name := s.takeWhile (· ≠ '=')
    match s.drop name.length with
    | '=' :: value =>
      if isName name then some (name, if value = [] then rest else .bare value :: rest) else none
    | _ => none
  | _ => none

/-- The parts of a simple command. -/
structure SimpleDraft where
  /-- The values for names. -/
  assignments : List (Text × Word) := []
  /-- The words. -/
  words : List Word := []
  /-- The redirections. -/
  redirections : List Redirection := []

/-- Reads the definition of a function behind its name and the opening parenthesis. -/
def readFunction (inner : Inner) (body : Reader Command) (name : Word) : Reader Command := do
  if (← token inner false false) ≠ .sign ")" then unexpected (some (.sign ")"))
  match bareText? name with
  | some text =>
    if !isName text || specialNames.contains (String.ofList text) then
      refuse "Bad function name".toList
    return .define (← get).line text (← body)
  | none => refuse "Bad function name".toList

/-- Reads a simple command. -/
def readSimple (inner : Inner) (body : Reader Command) (line : Nat) :
    Nat → SimpleDraft → Reader Command
  | 0, _ => return .nothing
  | limit + 1, draft => do
    let finish : Reader Command := do
      back
      return .simple line draft.assignments draft.words draft.redirections
    match ← token inner false false with
    | .word =>
      let word := (← get).word
      match draft.words, assignment? word with
      | [], some assignment =>
        readSimple inner body line limit
          { draft with assignments := draft.assignments ++ [assignment] }
      | words, _ => readSimple inner body line limit { draft with words := words ++ [word] }
    | .redirection =>
      let redirection ← readTarget inner
      readSimple inner body line limit
        { draft with redirections := draft.redirections ++ [redirection] }
    | .sign "(" =>
      match draft with
      | { assignments := [], words := [name], redirections := [] } => readFunction inner body name
      | _ => finish
    | _ => finish

/-- Reads the end of a command that a keyword ends. -/
def expect (inner : Inner) (finds : Bool) (wanted : Token) : Reader Unit := do
  if (← token inner false finds) ≠ wanted then unexpected (some wanted)

/-- Reads the choices of a branch behind its first keyword. -/
def readBranch (inner : Inner) : Nat → Reader Command
  | 0 => return .nothing
  | limit + 1 => do
    let condition ← inner.list 0
    expect inner false (.keyword "then")
    let first ← inner.list 0
    match ← token inner false false with
    | .keyword "elif" => return .branch condition first (← readBranch inner limit)
    | .keyword "else" => return .branch condition first (← inner.list 0)
    | _ =>
      back
      return .branch condition first .nothing

/-- Reads the words of a loop. -/
def readWords (inner : Inner) : Nat → Reader (List Word)
  | 0 => return []
  | limit + 1 => do
    if (← token inner false false) = .word then
      let word := (← get).word
      return word :: (← readWords inner limit)
    else return []

/-- Reads a loop over words behind its keyword. -/
def readFor (inner : Inner) (line : Nat) : Reader Command := do
  let bad : Reader Text := refuse "Bad for loop variable".toList
  let found ← token inner false false
  let s ← get
  let name ← match found, bareText? s.word with
    | .word, some name => if isName name && !s.isQuoted then pure name else bad
    | _, _ => bad
  let words ← match ← token inner true true with
    | .keyword "in" => do
      let words ← readWords inner ((← get).rest.length + 2)
      let last := (← get).last
      if last ≠ .newline ∧ last ≠ .sign ";" then unexpected none
      pure (some words)
    | found => do
      if found ≠ .sign ";" then back
      pure none
  if (← token inner true true) ≠ .keyword "do" then unexpected (some (.keyword "do"))
  return .forEach line name words (← inner.list 0)

/-- Reads the forms of a clause, the first of which was read already. -/
def readForms (inner : Inner) : Nat → Reader (List Word)
  | 0 => return []
  | limit + 1 => do
    let form := (← get).word
    if (← token inner false false) = .sign "|" then
      let _ ← token inner false false
      return form :: (← readForms inner limit)
    else return [form]

/-- Reads the clauses of a choice by form. -/
def readClauses (inner : Inner) : Nat → Reader (List (List Word × Command))
  | 0 => return []
  | limit + 1 => do
    let first ← token inner true true
    if first = .keyword "esac" then return []
    if first = .sign "(" then
      let _ ← token inner false false
    let forms ← readForms inner ((← get).rest.length + 2)
    if (← get).last ≠ .sign ")" then unexpected (some (.sign ")"))
    let body ← inner.list 2
    match ← token inner true true with
    | .keyword "esac" => return [(forms, body)]
    | .sign ";;" => return (forms, body) :: (← readClauses inner limit)
    | _ => unexpected (some (.sign ";;"))

/-- Reads a choice by form behind its keyword. -/
def readCase (inner : Inner) (line : Nat) : Reader Command := do
  if (← token inner false false) ≠ .word then unexpected (some .word)
  let subject := (← get).word
  if (← token inner true true) ≠ .keyword "in" then unexpected (some (.keyword "in"))
  let clauses ← readClauses inner ((← get).rest.length + 2)
  return .choose line subject clauses

/-- Reads a command.  Ends of lines may stand in front of it, and keywords may count there. -/
def readCommand (inner : Inner) : Nat → Bool → Bool → Reader Command
  | 0, _, _ => unexpected none
  | limit + 1, skips, finds => do
    let line := (← get).line
    let behind (body : Command) : Reader Command := do
      let redirections ← readRedirections inner ((← get).rest.length + 2) true
      if redirections.isEmpty then return body
      else
        match body with
        | .subshell line body _ => return .subshell line body redirections
        | body => return .redirected line body redirections
    match ← token inner skips finds with
    | .keyword "if" =>
      let body ← readBranch inner ((← get).rest.length + 2)
      expect inner false (.keyword "fi")
      behind body
    | .keyword "while" =>
      let condition ← inner.list 0
      expect inner false (.keyword "do")
      let body ← inner.list 0
      expect inner false (.keyword "done")
      behind (.loop false condition body)
    | .keyword "until" =>
      let condition ← inner.list 0
      expect inner false (.keyword "do")
      let body ← inner.list 0
      expect inner false (.keyword "done")
      behind (.loop true condition body)
    | .keyword "for" =>
      let body ← readFor inner line
      expect inner false (.keyword "done")
      behind body
    | .keyword "case" => behind (← readCase inner line)
    | .sign "(" =>
      let body ← inner.list 0
      expect inner false (.sign ")")
      behind (.subshell line body [])
    | .keyword "\x7b" =>
      let body ← inner.list 0
      expect inner false (.keyword "\x7d")
      behind body
    | .word | .redirection =>
      back
      let body := readCommand inner limit true true
      readSimple inner body (← get).line ((← get).rest.length + 3) {}
    | _ => unexpected none

/-- Reads a command that is not within another one of its kind. -/
def command (inner : Inner) (skips finds : Bool) : Reader Command := do
  readCommand inner ((← get).rest.length + 2) skips finds

/-- Reads the commands of a pipeline behind the first one. -/
def readPipes (inner : Inner) : Nat → Reader (List Command)
  | 0 => return []
  | limit + 1 => do
    if (← token inner false false) = .sign "|" then
      let next ← command inner true true
      return next :: (← readPipes inner limit)
    else
      back
      return []

/-- Reads a pipeline.  Ends of lines may stand in front of it. -/
def pipeline (inner : Inner) (skips : Bool) : Reader Command := do
  let isNegated := (← token inner skips skips) = .keyword "!"
  if !isNegated then back
  let first ← command inner false isNegated
  let others ← readPipes inner ((← get).rest.length + 2)
  let found := if others.isEmpty then first else .pipeline (first :: others)
  return if isNegated then .negated found else found

/-- Reads the pipelines behind the first one. -/
def readChain (inner : Inner) : Nat → Command → Reader Command
  | 0, found => return found
  | limit + 1, found => do
    match ← token inner false false with
    | .sign "&&" => readChain inner limit (.ifOk found (← pipeline inner true))
    | .sign "||" => readChain inner limit (.ifFailed found (← pipeline inner true))
    | _ =>
      back
      return found

/-- Reads commands up to where they end: at the end of a line, or at a token that ends the command
around them, which may stand at the very start only if `mayBeEmpty` holds. -/
def readList (inner : Inner) (atLineEnd : Bool) : Nat → Bool → Command → Reader Command
  | 0, _, found => return found
  | limit + 1, mayEnd, found => do
    match ← token inner (!atLineEnd) true with
    | .newline =>
      documents inner
      return found
    | .finish =>
      documents inner
      modify fun s => { s with last := .finish }
      back
      return found
    | first =>
      back
      if mayEnd && !atLineEnd && endsList first then return found
      let next ← readChain inner ((← get).rest.length + 2) (← pipeline inner false)
      match ← token inner false false with
      | .sign "&" => readList inner atLineEnd limit true (andThen found (.background next))
      | .sign ";" => readList inner atLineEnd limit true (andThen found next)
      | .newline | .finish =>
        back
        readList inner atLineEnd limit true (andThen found next)
      | _ =>
        if atLineEnd then unexpected none
        back
        return andThen found next

/-- Reads commands.  The numbers are: 0 inside another command, 1 up to the end of a line, 2 between
parentheses or clauses, where there may be none. -/
def listAt (inner : Inner) (kind : Nat) : Reader Command := do
  readList inner (kind = 1) ((← get).rest.length + 3) (kind = 2) .nothing

/-- The readers up to a depth. -/
def innerWithin : Nat → Inner
  | 0 => ⟨fun _ => unexpected none, fun _ => unexpected none⟩
  | depth + 1 =>
    let inner := innerWithin depth
    ⟨partsAt inner, listAt inner⟩

/-- How deep commands and words are read. -/
def depthLimit : Nat := 1000

end Reader

namespace Script

/-- Reads the next complete command.  The answer is `none` at the end of the script. -/
def next (script : Script) : Except SyntaxFault (Option Command × Script) :=
  let inner := Reader.innerWithin Reader.depthLimit
  let start := { script with isBack := false, pending := [] }
  match (Reader.listAt inner 1).run start with
  | .ok (.nothing, after) =>
    .ok (if after.isBack && after.last = .finish then none else some .nothing, after)
  | .ok (command, after) => .ok (some command, after)
  | .error fault => .error fault

end Script

end Shell

end ScriptBundle
