/-
# Formatted output

Writes arguments in a format.  The format is used again as long as arguments are left, and missing
ones count as empty or zero.

## Main content

- `Formatted.write` writes arguments in a format; `FormatFault` lists what can be wrong.
- `Formatted.echo` writes texts with escapes in them.
-/
import ScriptBundle.Numeral.Directive

namespace ScriptBundle

/-- What is wrong with a format or an argument. -/
inductive FormatFault where
  /-- An argument is no number. -/
  | noNumber (s : Text)
  /-- Something stands behind the number of an argument. -/
  | restBehind (s : Text)
  /-- The number of an argument is too great. -/
  | outOfRange (s : Text)
  /-- A directive ends without its letter. -/
  | noLetter
  /-- A directive has a letter that means nothing. -/
  | badDirective (s : Text)

namespace FormatFault

/-- The wording of a fault. -/
def text : FormatFault → Text
  | .noNumber s => s ++ ": expected numeric value".toList
  | .restBehind s => s ++ ": not completely converted".toList
  | .outOfRange s => s ++ ": Numerical result out of range".toList
  | .noLetter => "missing format character".toList
  | .badDirective s => s ++ ": invalid directive".toList

/-- Whether nothing is written any more behind a fault. -/
def isFatal : FormatFault → Bool
  | .noLetter | .badDirective _ => true
  | _ => false

end FormatFault

namespace Formatted

/-! ## Escapes -/

/-- The character of an escape, without its backslash, and what follows.  A backslash in front of
anything else stands for itself. -/
def escape (s : Text) : Char × Text :=
  match s with
  | [] => ('\\', [])
  | c :: rest =>
    if Numeral.isDigit 8 c then
      let (n, rest) := Numeral.readLimited 8 3 s
      (Char.ofNat (n % 256), rest)
    else
      match c with
      | '\\' => ('\\', rest)
      | 'a' => ('\x07', rest)
      | 'b' => ('\x08', rest)
      | 'f' => ('\x0c', rest)
      | 'n' => ('\n', rest)
      | 'r' => ('\x0d', rest)
      | 't' => ('\t', rest)
      | 'v' => ('\x0b', rest)
      | _ => ('\\', s)

/-- A text with its escapes replaced, and whether one of them ends the whole output. -/
def unescapeWithin : Nat → Text → Text × Bool
  | 0, s => (s, false)
  | limit + 1, s =>
    match s with
    | [] => ([], false)
    | '\\' :: 'c' :: _ => ([], true)
    | '\\' :: '0' :: d :: rest =>
      let (c, rest) := escape (if Numeral.isDigit 8 d then d :: rest else '0' :: d :: rest)
      let (more, ends) := unescapeWithin limit rest
      (c :: more, ends)
    | '\\' :: rest =>
      let (c, rest) := escape rest
      let (more, ends) := unescapeWithin limit rest
      (c :: more, ends)
    | c :: rest =>
      let (more, ends) := unescapeWithin limit rest
      (c :: more, ends)

/-- A text with its escapes replaced, and whether one of them ends the whole output. -/
def unescape (s : Text) : Text × Bool := unescapeWithin s.length s

/-- Writes texts with blanks between them.  An option in front leaves the newline out. -/
def echo (args : List Text) : Text :=
  let (args, isOpen) := match args with
    | ['-', 'n'] :: args => (args, true)
    | args => (args, false)
  let rec words : List Text → Text
    | [] => if isOpen then [] else ['\n']
    | arg :: rest =>
      let (s, ends) := unescape arg
      if ends then s
      else s ++ (if rest = [] then [] else [' ']) ++ words rest
  words args

/-! ## Formats -/

/-- An output in progress: what is written, the arguments that are left, and the faults, newest
first. -/
structure Draft where
  /-- What is written. -/
  written : List Text := []
  /-- The arguments that are left. -/
  args : List Text
  /-- The faults, the newest first. -/
  faults : List FormatFault := []
  /-- Whether the output ends here. -/
  ended : Bool := false

namespace Draft

/-- Writes a text. -/
def add (d : Draft) (s : Text) : Draft := { d with written := s :: d.written }

/-- Takes the next argument. -/
def take (d : Draft) : Option Text × Draft := (d.args.head?, { d with args := d.args.tail })

/-- Adds a fault. -/
def fault (d : Draft) (fault : FormatFault) : Draft :=
  { d with faults := fault :: d.faults, ended := d.ended || fault.isFatal }

/-- Takes the next argument as a whole number within bounds. -/
def takeInteger (d : Draft) (least greatest : Int) : Int × Draft :=
  match d.take with
  | (none, d) => (0, d)
  | (some ('"' :: s), d) | (some ('\'' :: s), d) => ((s.headD '\x00').toNat, d)
  | (some s, d) =>
    match Numeral.readInteger true s with
    | none => (0, if s = [] then d else d.fault (.noNumber s))
    | some (n, rest) =>
      let d := if rest ≠ [] then d.fault (.restBehind s) else d
      if n < least ∨ greatest < n then
        (max least (min greatest n), if rest ≠ [] then d else d.fault (.outOfRange s))
      else (n, d)

/-- Takes the next argument as a floating number. -/
def takeReal (d : Draft) : Float × Draft :=
  match d.take with
  | (none, d) => (0, d)
  | (some ('"' :: s), d) | (some ('\'' :: s), d) => (Float.ofNat (s.headD '\x00').toNat, d)
  | (some s, d) =>
    match Real.ofText? s with
    | none => (0, if s = [] then d else d.fault (.noNumber s))
    | some (x, rest) => (x, if rest ≠ [] then d.fault (.restBehind s) else d)

/-- Takes the number that a width or precision asks for. -/
def takeAmount (d : Draft) (amount : Option Directive.Amount) : Int × Draft :=
  match amount with
  | some .asked => d.takeInteger Numeral.least Numeral.greatest
  | _ => (0, d)

/-- Writes the next argument as a directive says. -/
def directive (d : Draft) (form : Directive) (letter : Char) (written : Text) : Draft :=
  match letter with
  | 'b' =>
    let (arg, d) := d.take
    let (s, ends) := unescape (arg.getD [])
    { d.add (form.word s) with ended := d.ended || ends }
  | 's' =>
    let (arg, d) := d.take
    d.add (form.word (arg.getD []))
  | 'c' =>
    let (arg, d) := d.take
    d.add ({ form with precision := none }.word [(arg.getD []).headD '\x00'])
  | 'd' | 'i' =>
    let (n, d) := d.takeInteger Numeral.least Numeral.greatest
    d.add (form.integer n)
  | 'o' | 'u' | 'x' | 'X' =>
    let (n, d) := d.takeInteger (1 - Nat.pow 2 64) (Nat.pow 2 64 - 1)
    d.add (form.natural letter (Numeral.unsigned n))
  | 'e' | 'E' | 'f' | 'F' | 'g' | 'G' =>
    let (x, d) := d.takeReal
    d.add (form.real letter x)
  | _ => d.fault (.badDirective written)

/-- Writes a format once. -/
def once : Nat → Text → Draft → Draft
  | 0, _, d => d
  | limit + 1, s, d =>
    if d.ended then d
    else
      match s with
      | [] => d
      | '\\' :: rest =>
        let (c, rest) := escape rest
        once limit rest (d.add [c])
      | '%' :: '%' :: rest => once limit rest (d.add ['%'])
      | '%' :: rest =>
        let draft := Directive.read rest
        let (width, d) := d.takeAmount draft.width
        let (precision, d) := d.takeAmount draft.precision
        match draft.rest with
        | [] => d.fault .noLetter
        | letter :: behind =>
          let written := '%' :: rest.take (rest.length - behind.length)
          once limit behind (d.directive (draft.complete width precision) letter written)
      | c :: rest => once limit rest (d.add [c])

/-- Writes a format as long as it takes arguments. -/
def again (format : Text) : Nat → Draft → Draft
  | 0, d => d
  | limit + 1, d =>
    let next := d.once (format.length + 1) format
    if next.ended ∨ next.args = [] ∨ next.args.length = d.args.length then next
    else next.again format limit

end Draft

/-- Writes arguments in a format.  The answer has the faults in their order. -/
def write (format : Text) (args : List Text) : Text × List FormatFault :=
  let d := ({ args } : Draft).again format (args.length + 1)
  (d.written.reverse.flatten, d.faults.reverse)

/-- The status of an output with faults. -/
def status (faults : List FormatFault) : Nat :=
  if faults.any FormatFault.isFatal then 2 else if faults.isEmpty then 0 else 1

end Formatted

end ScriptBundle
