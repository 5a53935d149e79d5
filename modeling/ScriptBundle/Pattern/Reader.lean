/-
# Reading patterns

Patterns are written in several dialects.  In the basic one, groups, bounds and choices stand behind
a backslash; in the extended one, a backslash takes such a meaning away.

## Main content

- `PatternDialect` lists the dialects.
- `Pattern.ofText?` reads a pattern, or says what is wrong with it.
-/
import ScriptBundle.Pattern.Basic

namespace ScriptBundle

/-- How patterns are written. -/
inductive PatternDialect where
  /-- The basic dialect of tools that search. -/
  | basic
  /-- The extended dialect of tools that search. -/
  | extended
  /-- The basic dialect of tools that edit, where control characters have escapes. -/
  | basicEdit
  /-- The extended dialect of tools that edit. -/
  | extendedEdit
  /-- The extended dialect of scripts over records, where a backslash counts inside brackets. -/
  | record
  deriving DecidableEq

/-- Why a text is no pattern. -/
inductive PatternFault where
  /-- A group is opened and not closed. -/
  | openGroup
  /-- A group is closed and not opened. -/
  | closedGroup
  /-- A set is opened and not closed. -/
  | openSet
  /-- A bound is opened and not closed. -/
  | openBound
  /-- A bound is no number. -/
  | badBound
  /-- A class has no such name. -/
  | badClass
  /-- A range ends before it starts. -/
  | badRange
  /-- A backslash stands at the end. -/
  | trailingBackslash
  /-- A reference is made to a group that there is not. -/
  | badReference
  /-- Nothing stands in front of a repetition. -/
  | badRepetition
  deriving DecidableEq

/-- The wording of a fault. -/
def PatternFault.text : PatternFault → Text
  | .openGroup => "Unmatched ( or \\(".toList
  | .closedGroup => "Unmatched ) or \\)".toList
  | .openSet => "Unmatched [, [^, [:, [., or [=".toList
  | .openBound => "Unmatched \\\x7b".toList
  | .badBound => "Invalid content of \\\x7b\\\x7d".toList
  | .badClass => "Invalid character class name".toList
  | .badRange => "Invalid range end".toList
  | .trailingBackslash => "Trailing backslash".toList
  | .badReference => "Invalid back reference".toList
  | .badRepetition => "Invalid preceding regular expression".toList

namespace PatternDialect

/-- Whether groups and choices stand without a backslash. -/
def isExtended (dialect : PatternDialect) : Bool :=
  dialect = .extended || dialect = .extendedEdit || dialect = .record

/-- Whether control characters have escapes. -/
def hasEscapes (dialect : PatternDialect) : Bool :=
  dialect = .basicEdit || dialect = .extendedEdit || dialect = .record

/-- The character of an escape with one letter. -/
def escaped? : Char → Option Char
  | 'n' => some '\n'
  | 't' => some '\t'
  | 'r' => some '\r'
  | 'f' => some '\x0c'
  | 'v' => some '\x0b'
  | 'a' => some '\x07'
  | _ => none

end PatternDialect

namespace Pattern

/-! ## Sets in brackets -/

/-- Reads the name of a class up to its closing sign. -/
def readClassName (sign : Char) (found : Text) : Text → Option (Text × Text)
  | [] => none
  | c :: ']' :: s => if c = sign then some (found.reverse, s) else readClassName sign (c :: found) (']' :: s)
  | c :: s => readClassName sign (c :: found) s

/-- Reads one character of a set. -/
def readMember (dialect : PatternDialect) (s : Text) : Option (Char × Text) :=
  match s with
  | [] => none
  | '[' :: '.' :: c :: '.' :: ']' :: s => some (c, s)
  | '\\' :: c :: rest =>
    if dialect.hasEscapes then
      match PatternDialect.escaped? c with
      | some escaped => some (escaped, rest)
      | none => if dialect = .record then some (c, rest) else some ('\\', c :: rest)
    else some ('\\', c :: rest)
  | c :: s => some (c, s)

mutual

/-- Reads the inside of a set up to its closing bracket, which may stand as a character at the very
start. -/
def readSet (dialect : PatternDialect) :
    Nat → Bool → List (Char × Char) → Text → Except PatternFault (List (Char × Char) × Text)
  | 0, _, _, _ => .error .openSet
  | limit + 1, isFirst, found, s =>
    match s with
    | [] => .error .openSet
    | ']' :: rest => if isFirst then readRange dialect limit found ']' rest else .ok (found, rest)
    | '[' :: ':' :: rest =>
      match readClassName ':' [] rest with
      | some (name, rest) =>
        match CharSet.classRanges? name with
        | some ranges => readSet dialect limit false (found ++ ranges) rest
        | none => .error .badClass
      | none => .error .openSet
    | '[' :: '=' :: c :: '=' :: ']' :: rest => readSet dialect limit false (found ++ [(c, c)]) rest
    | s =>
      match readMember dialect s with
      | some (c, rest) => readRange dialect limit found c rest
      | none => .error .openSet

/-- Reads what follows a character of a set: the other end of a range, or other characters. -/
def readRange (dialect : PatternDialect) :
    Nat → List (Char × Char) → Char → Text → Except PatternFault (List (Char × Char) × Text)
  | 0, _, _, _ => .error .openSet
  | limit + 1, found, first, s =>
    match s with
    | '-' :: ']' :: _ => readSet dialect limit false (found ++ [(first, first)]) s
    | '-' :: rest =>
      match readMember dialect rest with
      | some (last, rest) =>
        if last < first then .error .badRange
        else readSet dialect limit false (found ++ [(first, last)]) rest
      | none => .error .openSet
    | s => readSet dialect limit false (found ++ [(first, first)]) s

end

/-- Reads a set behind its opening bracket. -/
def readBracket (dialect : PatternDialect) (s : Text) : Except PatternFault (CharSet × Text) := do
  match s with
  | '^' :: rest =>
    let (ranges, rest) ← readSet dialect (2 * s.length + 2) true [] rest
    .ok (⟨ranges, true⟩, rest)
  | s =>
    let (ranges, rest) ← readSet dialect (2 * s.length + 2) true [] s
    .ok (⟨ranges, false⟩, rest)

/-! ## Bounds -/

/-- The number that digits stand for. -/
def numberOf (digits : Text) : Nat :=
  digits.foldl (fun value c => value * 10 + (c.toNat - '0'.toNat)) 0

/-- Reads bounds behind their opening brace, up to the given closing text. -/
def readBounds (closing : Text) (s : Text) : Option (Nat × Option Nat × Text) :=
  let (low, s) := s.span Char.isDigit
  let least := numberOf low
  match s with
  | ',' :: s =>
    let (high, s) := s.span Char.isDigit
    (Text.after? closing s).map fun rest =>
      (least, if high = [] then none else some (numberOf high), rest)
  | s =>
    if low = [] then none
    else (Text.after? closing s).map fun rest => (least, some least, rest)

/-! ## Whole patterns -/

/-- What a reader gives: a pattern, the number of groups opened so far, and the rest. -/
abbrev Reading := Except PatternFault (Pattern × Nat × Text)

/-- The escape behind a backslash, if it stands for one character or edge. -/
def escape? (dialect : PatternDialect) (c : Char) : Option Pattern :=
  if dialect = .record then
    match PatternDialect.escaped? c with
    | some escaped => some (.char (.single escaped))
    | none => none
  else
    match c with
    | 'w' => some (.char ⟨CharSet.word, false⟩)
    | 'W' => some (.char ⟨CharSet.word, true⟩)
    | 's' => some (.char ⟨CharSet.space, false⟩)
    | 'S' => some (.char ⟨CharSet.space, true⟩)
    | 'b' => some (.edge .word)
    | 'B' => some (.edge .noWord)
    | '<' => some (.edge .wordStart)
    | '>' => some (.edge .wordStop)
    | '\x60' => some (.edge .start)
    | '\'' => some (.edge .stop)
    | c =>
      if dialect.hasEscapes then
        (PatternDialect.escaped? c).map fun escaped => .char (.single escaped)
      else none

/-- Whether a sequence ends here: at the end, at a choice, or at the end of a group. -/
def endsSequence (dialect : PatternDialect) (depth : Nat) (s : Text) : Bool :=
  match s with
  | [] => true
  | '|' :: _ => dialect.isExtended
  | ')' :: _ => dialect.isExtended && depth ≠ 0
  | '\\' :: '|' :: _ => !dialect.isExtended
  | '\\' :: ')' :: _ => !dialect.isExtended
  | _ => false

/-- Puts a pattern behind another. -/
def behind (first second : Pattern) : Pattern :=
  if first = .nothing then second else .sequence first second

/-- Reads the repetitions behind a pattern. -/
def readRepetitions (dialect : PatternDialect) :
    Nat → Pattern → Text → Except PatternFault (Pattern × Text)
  | 0, pattern, s => .ok (pattern, s)
  | limit + 1, pattern, s =>
    let again (least : Nat) (most : Option Nat) (rest : Text) :=
      readRepetitions dialect limit (.repeated pattern least most) rest
    match s with
    | '*' :: rest => again 0 none rest
    | '+' :: rest => if dialect.isExtended then again 1 none rest else .ok (pattern, s)
    | '?' :: rest => if dialect.isExtended then again 0 (some 1) rest else .ok (pattern, s)
    | '\x7b' :: rest =>
      if dialect.isExtended then
        match readBounds ['\x7d'] rest with
        | some (least, most, rest) => again least most rest
        | none => .ok (pattern, s)
      else .ok (pattern, s)
    | '\\' :: '+' :: rest => if dialect.isExtended then .ok (pattern, s) else again 1 none rest
    | '\\' :: '?' :: rest => if dialect.isExtended then .ok (pattern, s) else again 0 (some 1) rest
    | '\\' :: '\x7b' :: rest =>
      if dialect.isExtended then .ok (pattern, s)
      else
        match readBounds ['\\', '\x7d'] rest with
        | some (least, most, rest) => again least most rest
        | none => .error (if Text.occurs ['\\', '\x7d'] rest then .badBound else .openBound)
    | s => .ok (pattern, s)

mutual

/-- Reads choices between sequences. -/
def readChoices (dialect : PatternDialect) : Nat → Nat → Nat → Text → Reading
  | 0, _, _, _ => .error .openGroup
  | limit + 1, depth, groups, s => do
    let (first, groups, s) ← readSequence dialect limit depth groups .nothing s
    let rest? := match s with
      | '|' :: rest => if dialect.isExtended then some rest else none
      | '\\' :: '|' :: rest => if dialect.isExtended then none else some rest
      | _ => none
    match rest? with
    | some rest => do
      let (second, groups, s) ← readChoices dialect limit depth groups rest
      .ok (.choice first second, groups, s)
    | none => .ok (first, groups, s)

/-- Reads a sequence of parts behind those that were read already. -/
def readSequence (dialect : PatternDialect) : Nat → Nat → Nat → Pattern → Text → Reading
  | 0, _, _, _, _ => .error .openGroup
  | limit + 1, depth, groups, found, s =>
    if endsSequence dialect depth s then .ok (found, groups, s)
    else do
      let (part, groups, s) ← readPart dialect limit depth groups (found = .nothing) s
      let (part, s) ← readRepetitions dialect (s.length + 1) part s
      readSequence dialect limit depth groups (behind found part) s

/-- Reads one part of a sequence, which is the first one or not. -/
def readPart (dialect : PatternDialect) : Nat → Nat → Nat → Bool → Text → Reading
  | 0, _, _, _, _ => .error .openGroup
  | limit + 1, depth, groups, isFirst, s =>
    let group (rest closing : Text) : Reading := do
      let (body, inner, s) ← readChoices dialect limit (depth + 1) (groups + 1) rest
      match Text.after? closing s with
      | some s => .ok (.group (groups + 1) body, inner, s)
      | none => .error .openGroup
    match s with
    | [] => .ok (.nothing, groups, [])
    | '.' :: rest => .ok (.char .all, groups, rest)
    | '[' :: rest => do
      let (set, rest) ← readBracket dialect rest
      .ok (.char set, groups, rest)
    | '^' :: rest =>
      if dialect.isExtended || isFirst then .ok (.edge .start, groups, rest)
      else .ok (.char (.single '^'), groups, rest)
    | '$' :: rest =>
      if dialect.isExtended || endsSequence dialect depth rest then .ok (.edge .stop, groups, rest)
      else .ok (.char (.single '$'), groups, rest)
    | '(' :: rest =>
      if dialect.isExtended then group rest [')'] else .ok (.char (.single '('), groups, rest)
    | '\\' :: [] => .error .trailingBackslash
    | '\\' :: '(' :: rest =>
      if dialect.isExtended then .ok (.char (.single '('), groups, rest)
      else group rest ['\\', ')']
    | '\\' :: c :: rest =>
      match escape? dialect c with
      | some pattern => .ok (pattern, groups, rest)
      | none =>
        if '1' ≤ c ∧ c ≤ '9' ∧ dialect ≠ .record then
          let number := c.toNat - '0'.toNat
          if number ≤ groups then .ok (.again number, groups, rest) else .error .badReference
        else .ok (.char (.single c), groups, rest)
    | '*' :: rest =>
      if isFirst && !dialect.isExtended then .ok (.char (.single '*'), groups, rest)
      else .ok (.nothing, groups, rest)
    | c :: rest => .ok (.char (.single c), groups, rest)

end

/-- Reads a pattern. -/
def ofText? (dialect : PatternDialect) (s : Text) : Except PatternFault Pattern := do
  let (pattern, _, rest) ← readChoices dialect (4 * s.length + 8) 0 0 s
  if rest = [] then .ok pattern else .error .closedGroup

/-- How many groups a pattern has. -/
def groupCount : Pattern → Nat
  | .sequence first second | .choice first second => groupCount first + groupCount second
  | .repeated body _ _ => groupCount body
  | .group _ body => groupCount body + 1
  | _ => 0

end Pattern

end ScriptBundle
