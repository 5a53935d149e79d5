/-
# Values of record scripts

A value is a number, a text, or a text from the input that looks like a number and is compared as
one.  Formats write several values into one text.

## Main content

- `RecordValue.toReal` and `RecordValue.toText` turn values into numbers and texts.
- `RecordValue.compare` compares two values.
- `RecordFormat.write` fills in a format.
-/
import ScriptBundle.Numeral.Directive

namespace ScriptBundle

/-- A value. -/
inductive RecordValue where
  /-- No value was given yet. -/
  | missing
  /-- A number. -/
  | number (x : Float)
  /-- A text. -/
  | text (s : Text)
  /-- A text from the input that looks like a number. -/
  | numeral (s : Text) (x : Float)

namespace RecordValue

/-- The number at the head of a text. -/
def realOf (s : Text) : Float × Text :=
  let (negative, bare) := Numeral.readSign (s.dropWhile Numeral.isBlank)
  match Real.readSize bare with
  | some (x, rest) => (if negative then -x else x, rest)
  | none => (0, s)

/-- A text from the input. -/
def ofInput (s : Text) : RecordValue :=
  let start := s.dropWhile Numeral.isBlank
  let bare := (Numeral.readSign start).2
  match Real.readSize bare with
  | some (_, rest) => if rest.all Numeral.isBlank then .numeral s (realOf s).1 else .text s
  | none => .text s

/-- The number that a value stands for. -/
def toReal : RecordValue → Float
  | .missing => 0
  | .number x => x
  | .text s => (realOf s).1
  | .numeral _ x => x

/-- A number in a format.  Whole numbers that fit into 64 bits are written with all of their
digits. -/
def realText (format : Text) (x : Float) : Text :=
  let n := (Real.whole? x).getD 0
  if Real.isWhole x && Numeral.least ≤ n && n < Nat.pow 2 64 then Numeral.ofInt n
  else
    let front := format.takeWhile (· ≠ '%')
    let draft := Directive.read ((format.drop front.length).drop 1)
    match draft.rest with
    | letter :: rest => front ++ (draft.complete 0 0).real letter x ++ rest
    | [] => front

/-- The text that a value stands for. -/
def toText (format : Text) : RecordValue → Text
  | .missing => []
  | .number x => realText format x
  | .text s => s
  | .numeral s _ => s

/-- Whether a value counts as true. -/
def isTrue : RecordValue → Bool
  | .missing => false
  | .number x => x != 0
  | .text s => s ≠ []
  | .numeral _ x => x != 0

/-- Whether a value is a number by itself. -/
def isNumeric : RecordValue → Bool
  | .text _ => false
  | _ => true

/-- Compares two texts character by character. -/
def compareTexts : Text → Text → Ordering
  | [], [] => .eq
  | [], _ => .lt
  | _, [] => .gt
  | c :: a, d :: b => if c < d then .lt else if d < c then .gt else compareTexts a b

/-- Whether a comparison of two values holds. -/
def holds (sign : String) (format : Text) (a b : RecordValue) : Bool :=
  if a.isNumeric && b.isNumeric then
    let x := a.toReal
    let y := b.toReal
    match sign with
    | "<" => x < y
    | "<=" => x ≤ y
    | "==" => x == y
    | "!=" => x != y
    | ">" => y < x
    | _ => y ≤ x
  else
    let result := compareTexts (a.toText format) (b.toText format)
    match sign with
    | "<" => result = .lt
    | "<=" => result ≠ .gt
    | "==" => result = .eq
    | "!=" => result ≠ .eq
    | ">" => result = .gt
    | _ => result ≠ .lt

/-- The truth of something as a value. -/
def ofBool (b : Bool) : RecordValue := .number (if b then 1 else 0)

/-- A number of things as a value. -/
def ofNat (n : Nat) : RecordValue := .number (Float.ofNat n)

end RecordValue

/-! ## Formats -/

namespace RecordFormat

/-- The whole part of a number. -/
def wholeOf (x : Float) : Int :=
  match Real.kind x with
  | .finite _ _ _ => Numeral.clamp ((Real.whole? x).getD 0)
  | .infinite negative => if negative then Numeral.least else Numeral.greatest
  | .undefined _ => Numeral.least

/-- Writes a value as its letter says. -/
def one (d : Directive) (letter : Char) (format : Text) (v : RecordValue) : Text :=
  match letter with
  | 'd' | 'i' => d.integer (wholeOf v.toReal)
  | 'o' | 'x' | 'X' | 'u' => d.natural letter (Numeral.unsigned (wholeOf v.toReal))
  | 'e' | 'E' | 'f' | 'F' | 'g' | 'G' => d.real letter v.toReal
  | 'c' =>
    match v with
    | .number x | .numeral _ x => d.word [Char.ofNat ((wholeOf x % 256).toNat)]
    | v => d.word ((v.toText format).take 1)
  | _ => d.word (v.toText format)

/-- Fills in a format.  Without a value for a directive, the answer is `none`. -/
def write (realFormat : Text) : Nat → Text → List RecordValue → Option Text
  | 0, _, _ => some []
  | limit + 1, s, values =>
    match s with
    | [] => some []
    | '%' :: '%' :: rest => (write realFormat limit rest values).map ('%' :: ·)
    | '%' :: rest =>
      let draft := Directive.read rest
      let isAsked (amount : Option Directive.Amount) : Bool :=
        match amount with
        | some .asked => true
        | _ => false
      let (width, values) := match isAsked draft.width, values with
        | true, v :: values => (wholeOf v.toReal, values)
        | _, values => (0, values)
      let (precision, values) := match isAsked draft.precision, values with
        | true, v :: values => (wholeOf v.toReal, values)
        | _, values => (0, values)
      let behind := draft.rest.dropWhile fun c => c = 'l' || c = 'h' || c = 'L'
      match behind, values with
      | [], _ => some ('%' :: rest)
      | letter :: behind, v :: values =>
        if "diouxXeEfFgGcs".toList.contains letter then
          (write realFormat limit behind values).map fun more =>
            one (draft.complete width precision) letter realFormat v ++ more
        else (write realFormat limit rest (v :: values)).map ('%' :: ·)
      | letter :: _, [] =>
        if "diouxXeEfFgGcs".toList.contains letter then none
        else (write realFormat limit rest []).map ('%' :: ·)
    | c :: rest => (write realFormat limit rest values).map (c :: ·)

end RecordFormat

end ScriptBundle
