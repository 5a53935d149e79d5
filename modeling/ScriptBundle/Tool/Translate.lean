/-
# Translating characters

A tool that replaces, deletes and squeezes single characters.  The characters are given by lists with
ranges, classes and repetitions.

## Main content

- `CharList.read` reads a list of characters.
- `Tool.translate` is the tool.
-/
import ScriptBundle.Process.Options
import ScriptBundle.Process.Quoted
import ScriptBundle.Pattern.Basic

namespace ScriptBundle

namespace CharList

/-- A part of a list of characters. -/
inductive Item where
  /-- Some characters. -/
  | chars (s : Text)
  /-- A class of characters by its name. -/
  | named (name s : Text)
  /-- A character several times, or as often as needed. -/
  | repeated (c : Char) (count : Option Nat)

/-- Reads a character, which may be an escape. -/
def readChar : Text → Option (Char × Bool × Text)
  | [] => none
  | '\\' :: c :: s =>
    if Numeral.isDigit 8 c then
      let (n, rest) := Numeral.readLimited 8 3 (c :: s)
      if n < 256 then some (Char.ofNat n, true, rest)
      else
        let (n, rest) := Numeral.readLimited 8 2 (c :: s)
        some (Char.ofNat n, true, rest)
    else
      let meant := match c with
        | 'a' => '\x07'
        | 'b' => '\x08'
        | 'f' => '\x0c'
        | 'n' => '\n'
        | 'r' => '\x0d'
        | 't' => '\t'
        | 'v' => '\x0b'
        | c => c
      some (meant, true, s)
  | c :: s => some (c, false, s)

/-- Reads what stands between a bracket with a sign and the sign with a bracket. -/
def readNamed (sign : Char) : Text → Text → Option (Text × Text)
  | _, [] => none
  | found, c :: ']' :: s =>
    if c = sign then some (found.reverse, s) else readNamed sign (c :: found) (']' :: s)
  | found, c :: s => readNamed sign (c :: found) s

/-- Reads a repetition behind its opening bracket. -/
def readRepeated (s : Text) : Option (Item × Text) := do
  let (c, _, s) ← readChar s
  match s with
  | '*' :: s =>
    let (row, s) := Numeral.spanDigits 10 s
    match s with
    | ']' :: s =>
      let base := if row.head? = some '0' then 8 else 10
      let count := Numeral.value base row
      some (.repeated c (if count = 0 then none else some count), s)
    | _ => none
  | _ => none

/-- Reads the next part of a list. -/
def readItem (s : Text) : Except Text (Item × Text) :=
  let plain : Except Text (Item × Text) :=
    match readChar s with
    | none => .ok (.chars [], [])
    | some (first, isEscaped, rest) =>
      match rest with
      | '-' :: behind =>
        match readChar behind with
        | some (last, _, rest) =>
          if last < first then
            .error ("range-endpoints of '".toList ++ s.take (s.length - rest.length) ++
              "' are in reverse collating sequence order".toList)
          else .ok (.chars (CharSet.members [(first, last)]), rest)
        | none => .ok (.chars [first], rest)
      | rest => if first = '\\' ∧ !isEscaped then .ok (.chars ['\\'], rest) else .ok (.chars [first], rest)
  match s with
  | '[' :: ':' :: rest =>
    match readNamed ':' [] rest with
    | some (name, behind) =>
      match CharSet.classRanges? name with
      | some ranges =>
        let members := (List.range 256).map Char.ofNat |>.filter (CharSet.contains ⟨ranges, false⟩)
        .ok (.named name members, behind)
      | none => .error ("invalid character class ".toList ++ Quoted.plain name)
    | none => plain
  | '[' :: '=' :: rest =>
    match readNamed '=' [] rest with
    | some ([c], behind) => .ok (.chars [c], behind)
    | some (other, _) =>
      .error (other ++ ": equivalence class operand must be a single character".toList)
    | none => plain
  | '[' :: rest =>
    match readRepeated rest with
    | some found => .ok found
    | none => plain
  | _ => plain

/-- Reads a list of characters. -/
def readWithin : Nat → Text → Except Text (List Item)
  | 0, _ => .ok []
  | limit + 1, s => do
    if s = [] then .ok []
    else
      let (item, rest) ← readItem s
      .ok (item :: (← readWithin limit rest))

/-- Reads a list of characters. -/
def read (s : Text) : Except Text (List Item) := readWithin s.length s

/-- The characters of a list.  A repetition as often as needed fills up to a length. -/
def expand (items : List Item) (length : Nat) : Text :=
  let known := items.foldl
    (fun n item =>
      n + match item with
        | .chars s | .named _ s => s.length
        | .repeated _ count => count.getD 0)
    0
  items.flatMap fun item =>
    match item with
    | .chars s | .named _ s => s
    | .repeated c (some n) => List.replicate n c
    | .repeated c none => List.replicate (length - known) c

end CharList

namespace Tool

/-- Keeps one of several equal neighbours, if it is among the given characters. -/
def squeeze (members : Char → Bool) : Option Char → Text → Text
  | _, [] => []
  | last, c :: s =>
    if last = some c ∧ members c then squeeze members last s else c :: squeeze members (some c) s

/-- The members of a list of characters, as a test. -/
def membersOf (s : Text) : Char → Bool :=
  let flags := (List.range 256).toArray.map fun n => s.contains (Char.ofNat n)
  fun c => flags.getD c.toNat false

/-- The character that takes the place of each character. -/
def replacements (source target : Text) : Array Char :=
  let pairs := source.zip (target ++ List.replicate (source.length - target.length)
    (target.getLast?.getD ' '))
  pairs.foldl (fun table (c, replacement) => table.setIfInBounds c.toNat replacement)
    ((List.range 256).toArray.map Char.ofNat)

/-- Reads a list of characters, or ends the program. -/
def charList (s : Text) : Task (List CharList.Item) := do
  match CharList.read s with
  | .ok items => return items
  | .error message => Task.fail message 1

/-- Replaces, deletes and squeezes characters of the input. -/
def translate : Task Nat := do
  let o ← Task.options
    "c|complement C d|delete s|squeeze-repeats t|truncate-set1" false 1
  let complements := o.has "c" || o.has "C"
  let deletes := o.has "d"
  let squeezes := o.has "s"
  let least := if deletes = squeezes then 2 else 1
  let most := if deletes && !squeezes then 1 else 2
  let explain (message : Text) (more : String) : Task Unit := do
    Task.complain message
    if more ≠ "" then Task.writeTo 2 (more.toList ++ ['\n'])
    Task.misuse [] 1
  if o.operands.length < least then
    match o.operands.getLast? with
    | none => Task.misuse "missing operand".toList 1
    | some last =>
      explain ("missing operand after ".toList ++ Quoted.plain last)
        (if squeezes then "Two strings must be given when both deleting and squeezing repeats."
          else "Two strings must be given when translating.")
  if most < o.operands.length then
    explain ("extra operand ".toList ++ Quoted.plain (o.operands.getD most []))
      (if o.operands.length = 2 then
        "Only one string may be given when deleting without squeezing repeats." else "")
  let items ← charList (o.operands.getD 0 [])
  let listed := CharList.expand items 0
  let isListed := membersOf listed
  let source := if complements then
    ((List.range 256).map Char.ofNat).filter fun c => !isListed c else listed
  let isSource := membersOf source
  let second ← match o.operands[1]? with
    | some s => do pure (some (← charList s))
    | none => pure none
  let content := match ← Task.input with
    | .ok content => content
    | .error _ => []
  match second with
  | none =>
    Task.out (if deletes then content.filter fun c => !isSource c else squeeze isSource none content)
  | some second =>
    let target := CharList.expand second source.length
    if deletes then
      Task.out (squeeze (membersOf target) none (content.filter fun c => !isSource c))
    else
      if target = [] ∧ source ≠ [] ∧ !o.has "t" then
        Task.fail "when not truncating set1, string2 must be non-empty".toList 1
      if second.any fun item => match item with
          | .named name _ => name ≠ "upper".toList ∧ name ≠ "lower".toList
          | _ => false then
        Task.fail ("when translating, the only character classes that may appear in\n".toList ++
          "string2 are 'upper' and 'lower'".toList) 1
      let source := if o.has "t" then source.take target.length else source
      let table := replacements source target
      let replaced := content.map fun c => table.getD c.toNat c
      Task.out (if squeezes then squeeze (membersOf target) none replaced else replaced)
  return 0

end Tool

end ScriptBundle
