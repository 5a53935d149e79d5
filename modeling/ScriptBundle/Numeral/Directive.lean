/-
# Directives of formats

A format is a text with directives in it, and each directive says how one value is written: how wide,
with how many places, and to which side it is moved.

## Main content

- `Directive.read` reads a directive behind its percent sign.
- `Directive.word`, `Directive.integer`, `Directive.natural` and `Directive.real` write a value.
-/
import ScriptBundle.Numeral.Real

namespace ScriptBundle

/-- How a value is written. -/
structure Directive where
  /-- Whether the value stands at the left of its field. -/
  left : Bool := false
  /-- Whether a plus sign is written. -/
  plus : Bool := false
  /-- Whether a blank is written where a sign could stand. -/
  blank : Bool := false
  /-- Whether the base or the point is always shown. -/
  full : Bool := false
  /-- Whether the field is filled with zeros. -/
  zeros : Bool := false
  /-- The width of the field. -/
  width : Nat := 0
  /-- The number of places, digits or characters. -/
  precision : Option Nat := none

namespace Directive

/-- Moves a text to its side of the field. -/
def fill (d : Directive) (s : Text) : Text :=
  let gap := List.replicate (d.width - s.length) ' '
  if d.left then s ++ gap else gap ++ s

/-- Writes a text, or as much of it as the precision allows. -/
def word (d : Directive) (s : Text) : Text :=
  d.fill (match d.precision with
    | some limit => s.take limit
    | none => s)

/-- Puts a sign or base in front of digits.  Zeros of the field stand between them. -/
def signed (d : Directive) (zeros : Bool) (sign row : Text) : Text :=
  if zeros && !d.left then
    sign ++ List.replicate (d.width - (sign.length + row.length)) '0' ++ row
  else d.fill (sign ++ row)

/-- The sign that is written in front of a number. -/
def signOf (d : Directive) (negative : Bool) : Text :=
  if negative then ['-'] else if d.plus then ['+'] else if d.blank then [' '] else []

/-- A row with at least as many digits as the precision asks for. -/
def row (d : Directive) (row : Text) : Text :=
  match d.precision with
  | some least => if least = 0 ∧ row = ['0'] then [] else List.replicate (least - row.length) '0' ++ row
  | none => row

/-- Writes a whole number with its sign. -/
def integer (d : Directive) (n : Int) : Text :=
  d.signed (d.zeros && d.precision.isNone) (d.signOf (n < 0)) (d.row (Text.ofNat n.natAbs))

/-- Writes a number without sign in the base that a letter stands for. -/
def natural (d : Directive) (letter : Char) (n : Nat) : Text :=
  let zeros := d.zeros && d.precision.isNone
  match letter with
  | 'x' => d.signed zeros (if d.full ∧ n ≠ 0 then ['0', 'x'] else []) (d.row (Numeral.digits 16 n))
  | 'X' =>
    d.signed zeros (if d.full ∧ n ≠ 0 then ['0', 'X'] else [])
      (d.row ((Numeral.digits 16 n).map Char.toUpper))
  | 'o' =>
    let row := d.row (Numeral.digits 8 n)
    d.signed zeros [] (if d.full && row.head? ≠ some '0' then '0' :: row else row)
  | _ => d.signed zeros [] (d.row (Text.ofNat n))

/-- Writes a floating number in the way that a letter stands for. -/
def real (d : Directive) (letter : Char) (x : Float) : Text :=
  let isUpper := letter.isUpper
  let cased (s : Text) : Text := if isUpper then s.map Char.toUpper else s
  match Real.kind x with
  | .infinite negative => d.fill (d.signOf negative ++ cased "inf".toList)
  | .undefined negative => d.fill (d.signOf negative ++ cased "nan".toList)
  | .finite negative numerator denominator =>
    let places := d.precision.getD 6
    let mark := if isUpper then 'E' else 'e'
    let row := match letter.toLower with
      | 'e' => Real.scientific mark places d.full numerator denominator
      | 'g' => Real.general mark places d.full numerator denominator
      | _ => Real.fixed places d.full numerator denominator
    d.signed d.zeros (d.signOf negative) row

/-- Reads the flags of a directive. -/
def readFlags (d : Directive) : Text → Directive × Text
  | '-' :: s => readFlags { d with left := true } s
  | '+' :: s => readFlags { d with plus := true } s
  | ' ' :: s => readFlags { d with blank := true } s
  | '#' :: s => readFlags { d with full := true } s
  | '0' :: s => readFlags { d with zeros := true } s
  | s => (d, s)

/-- A number of a directive. -/
inductive Amount where
  /-- The number is written in the directive. -/
  | given (n : Nat)
  /-- The number is the next value. -/
  | asked

/-- A directive as it is written: the width and the precision may be values of their own. -/
structure Draft where
  /-- The flags. -/
  flags : Directive
  /-- The width. -/
  width : Option Amount
  /-- The precision. -/
  precision : Option Amount
  /-- What follows. -/
  rest : Text

/-- Reads a number or a star. -/
def readAmount (s : Text) : Option Amount × Text :=
  match s with
  | '*' :: s => (some .asked, s)
  | s =>
    match Numeral.spanDigits 10 s with
    | ([], s) => (none, s)
    | (row, s) => (some (.given (Numeral.value 10 row)), s)

/-- Reads a directive behind its percent sign, up to its letter. -/
def read (s : Text) : Draft :=
  let (flags, s) := readFlags {} s
  let (width, s) := readAmount s
  match s with
  | '.' :: s =>
    let (precision, s) := readAmount s
    ⟨flags, width, some (precision.getD (.given 0)), s⟩
  | s => ⟨flags, width, none, s⟩

/-- Sets the width.  A negative one moves the value to the left. -/
def setWidth (d : Directive) (n : Int) : Directive :=
  if n < 0 then { d with left := true, width := n.natAbs } else { d with width := n.toNat }

/-- Sets the precision.  A negative one is none. -/
def setPrecision (d : Directive) (n : Int) : Directive :=
  { d with precision := if n < 0 then none else some n.toNat }

/-- Fills in the width and the precision from the values that they ask for. -/
def Draft.complete (draft : Draft) (width precision : Int) : Directive :=
  let d := match draft.width with
    | none => draft.flags
    | some (.given n) => { draft.flags with width := n }
    | some .asked => draft.flags.setWidth width
  match draft.precision with
  | none => d
  | some (.given n) => { d with precision := some n }
  | some .asked => d.setPrecision precision

end Directive

end ScriptBundle
