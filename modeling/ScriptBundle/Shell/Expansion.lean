/-
# What words stand for

Parameters, commands, arithmetic and home directories in words stand for other texts.

## Main content

- `Action.expand` lists what a word stands for, part by part.
- `Action.expandText`, `Action.expandForm` and `Action.expandFields` make a text, a wildcard or fields
  of it.
-/
import ScriptBundle.Shell.Arithmetic
import ScriptBundle.Shell.Field

namespace ScriptBundle

namespace Shell

/-- How a word is used. -/
structure Usage where
  /-- Whether it is cut into fields. -/
  hasFields : Bool := false
  /-- Whether it stands in place of a parameter, and is cut like a value. -/
  inPlace : Bool := false
  /-- Whether it is a value, in which home directories may stand behind colons. -/
  isValue : Bool := false
  /-- Whether a home directory may stand in it. -/
  hasHome : Bool := true

/-- How the output of a command is taken. -/
abbrev Taker := Command → Action Text

namespace Action

/-- The home directory of a user, where the name is known. -/
def homeOf (user : Text) : Action (Option Text) := do
  if user = [] then value? "HOME".toList
  else
    return match String.ofList user with
      | "root" => some "/root".toList
      | "nobody" => some "/nonexistent".toList
      | "daemon" => some "/usr/sbin".toList
      | "bin" => some "/bin".toList
      | _ => none

/-- Replaces the home directory that a text may begin with.  The name of a user ends at a slash, in a
value also at a colon, or at the end of the word. -/
def expandHome (usage : Usage) (isLast : Bool) (s : Text) : Action (List Glyph × Text) := do
  match s with
  | '~' :: s =>
    let user := s.takeWhile fun c => c ≠ '/' && !(usage.isValue && c = ':')
    let rest := s.drop user.length
    if rest = [] ∧ !isLast then return ([.char '~' false], s)
    match ← homeOf user with
    | some home => return (Glyph.ofText true home, rest)
    | none => return ([.char '~' false], s)
  | s => return ([], s)

/-- Replaces the home directories in a value behind its colons. -/
def expandHomes (usage : Usage) (isLast : Bool) : Nat → Text → Action (List Glyph)
  | 0, _ => return []
  | limit + 1, s => do
    let (home, s) ← expandHome usage isLast s
    let piece := s.takeWhile (· ≠ ':')
    match s.drop piece.length with
    | [] => return home ++ Glyph.ofText false piece
    | colon :: rest =>
      return home ++ Glyph.ofText false (piece ++ [colon]) ++
        (← expandHomes usage isLast limit rest)

/-- What characters that may mean something stand for. -/
def expandBare (usage : Usage) (isFirst isLast : Bool) (s : Text) : Action (List Glyph) := do
  let plain (s : Text) : List Glyph :=
    if usage.inPlace && usage.hasFields then [.value s] else Glyph.ofText false s
  if usage.isValue ∧ usage.hasHome then
    if isFirst then expandHomes usage isLast (s.length + 1) s
    else
      let piece := s.takeWhile (· ≠ ':')
      match s.drop piece.length with
      | [] => return Glyph.ofText false piece
      | colon :: rest =>
        return Glyph.ofText false (piece ++ [colon]) ++
          (← expandHomes usage isLast (rest.length + 1) rest)
  else if usage.hasHome ∧ isFirst then
    let (home, rest) ← expandHome usage isLast s
    return home ++ (if rest = [] then [] else plain rest)
  else return plain s

/-- Whether a parameter stands for all arguments. -/
def meansAll (name : Text) : Bool := name = ['@'] || name = ['*']

/-- All arguments in one text.  Where they become fields, U+0000 stands between them. -/
def argumentText (usage : Usage) (name : Text) (isQuoted : Bool) : Action Text := do
  let args := (← get).args
  if usage.hasFields && (!isQuoted || name = ['@']) then return Text.join ['\x00'] args
  else return Text.join ((← separators).take 1) args

/-- The value of a parameter. -/
def parameter? (name : Text) : Action (Option Text) := do
  let session ← get
  match name with
  | ['?'] => return some (Text.ofNat session.status)
  | ['#'] => return some (Text.ofNat session.args.length)
  | ['$'] => return some (Text.ofNat 1)
  | ['!'] => return (session.jobs.head?).map fun job => Text.ofNat job.1
  | ['-'] => return some ("ubaCEVvxsnmiIfe".toList.filter session.flags.contains)
  | name =>
    match Numeral.ofRow? name with
    | some 0 => return some session.name
    | some n => return session.args[n - 1]?
    | none => value? name

/-- What a value stands for. -/
def glyphsOf (usage : Usage) (name : Text) (isQuoted : Bool) (s : Text) : List Glyph :=
  if meansAll name && usage.hasFields && s.contains '\x00' then
    let pieces := Text.splitWith (· = '\x00') s
    if isQuoted then
      List.intercalate [.cut] (pieces.map fun piece => .mark :: Glyph.ofText true piece)
    else List.intercalate [.gap] (pieces.map fun piece => [.value piece])
  else if isQuoted then Glyph.ofText true s
  else if usage.hasFields then [.value s]
  else Glyph.ofText false s

/-- What all arguments between quotes stand for. -/
def argumentGlyphs (usage : Usage) : Action (List Glyph) := do
  if usage.hasFields then
    return List.intercalate [.cut] ((← get).args.map fun arg => .mark :: Glyph.ofText true arg)
  else return .mark :: Glyph.ofText true (← argumentText usage ['@'] true)

/-- A text without the shortest or longest part at its start or end that a pattern fits. -/
def without (atEnd longest : Bool) (pattern : Pattern) (s : Text) : Text :=
  if atEnd then
    let starts := List.range (s.length + 1)
    let found := (if longest then starts else starts.reverse).find? fun start =>
      (pattern.stops s start).contains s.length
    match found with
    | some start => s.take start
    | none => s
  else
    let stops := pattern.stops s 0
    match if longest then stops.head? else stops.getLast? with
    | some stop => s.drop stop
    | none => s

/-- What the parts of a word stand for. -/
def expandParts (take : Taker) : Nat → Usage → Bool → Word → Action (List Glyph)
  | 0, _, _, _ => return []
  | limit + 1, usage, isFirst, word => do
    match word with
    | [] => return []
    | part :: rest =>
      let glyphs ← match part with
        | .bare s => expandBare usage isFirst rest.isEmpty s
        | .quoted s => pure (Glyph.ofText true s)
        | .mark => pure [.mark]
        | .arguments => argumentGlyphs usage
        | .output command isQuoted => do
          let s ← take command
          pure (glyphsOf usage [] isQuoted s)
        | .arithmetic expression isQuoted => do
          let glyphs ← expandParts take limit { hasHome := false } true expression
          let n ← calculate (Glyph.text glyphs)
          pure (glyphsOf usage [] isQuoted (Numeral.ofInt n))
        | .parameter name use isQuoted => expandParameter limit usage name use isQuoted
      return glyphs ++ (← expandParts take limit usage false rest)
where
  /-- What a parameter stands for. -/
  expandParameter (limit : Nat) (usage : Usage) (name : Text) (use : ParameterUse)
      (isQuoted : Bool) : Action (List Glyph) := do
    let value? ←
      if meansAll name then some <$> argumentText usage name isQuoted else parameter? name
    let needed : Action Text := do
      match value? with
      | some s => return s
      | none =>
        if ← isOn 'u' then refuse (name ++ ": parameter not set".toList)
        return []
    match use with
    | .plain => return glyphsOf usage name isQuoted (← needed)
    | .length => do
      let s ← if meansAll name then argumentText {} name true else needed
      return glyphsOf usage [] isQuoted (Text.ofNat s.length)
    | .unknown => refuse "Bad substitution".toList
    | .without atEnd longest form => do
      let s ← needed
      let form ← expandParts take limit {} true form
      let pattern := Pattern.ofWildcard ['!'] (Glyph.form form)
      return glyphsOf usage name isQuoted (without atEnd longest pattern s)
    | .instead sign orEmpty word => do
      let isSet := value?.any fun s => !(orEmpty && s.isEmpty)
      let inPlace : Usage := { usage with inPlace := true, isValue := false }
      match sign with
      | '+' => if isSet then expandParts take limit inPlace true word else return []
      | '-' =>
        if isSet then return glyphsOf usage name isQuoted (value?.getD [])
        else expandParts take limit inPlace true word
      | '=' =>
        if isSet then return glyphsOf usage name isQuoted (value?.getD [])
        else
          let s := Glyph.text (← expandParts take limit {} true word)
          setValue name s
          return glyphsOf usage name isQuoted s
      | _ =>
        if isSet then return glyphsOf usage name isQuoted (value?.getD [])
        else if word = [] then
          let more := if orEmpty then " or null" else ""
          refuse (name ++ ": parameter not set".toList ++ more.toList)
        else
          let s := Glyph.text (← expandParts take limit {} true word)
          refuse (name ++ ": ".toList ++ s)

/-- How deep words are expanded. -/
def expansionLimit : Nat := 100000

/-- What a word stands for. -/
def expand (take : Taker) (usage : Usage) (word : Word) : Action (List Glyph) :=
  expandParts take expansionLimit usage true word

/-- The text that a word stands for. -/
def expandText (take : Taker) (word : Word) : Action Text :=
  return Glyph.text (← expand take {} word)

/-- The text that a document stands for. -/
def expandDocument (take : Taker) (word : Word) : Action Text :=
  return Glyph.text (← expand take { hasHome := false } word)

/-- The value that a word stands for. -/
def expandValue (take : Taker) (word : Word) : Action Text :=
  return Glyph.text (← expand take { isValue := true } word)

/-- The wildcard that a word stands for. -/
def expandForm (take : Taker) (word : Word) : Action Text :=
  return Glyph.form (← expand take {} word)

/-- The fields that a word stands for. -/
def expandFields (take : Taker) (word : Word) : Action (List Text) := do
  let glyphs ← expand take { hasFields := true } word
  let fields := Field.ofGlyphs (← separators) glyphs
  if ← isOn 'f' then return fields.map Glyph.text
  let fs ← files
  return fields.flatMap (Field.names fs)

end Action

end Shell

end ScriptBundle
