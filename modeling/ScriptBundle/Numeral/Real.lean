/-
# Written real numbers

A floating number is a whole number times a power of two, so its decimal forms are found by exact
arithmetic on whole numbers.

## Main content

- `Real.ofText?` reads a number from the head of a text.
- `Real.fixed`, `Real.scientific` and `Real.general` write a number: with a given number of places,
  with an exponent, or in the shorter of these ways.
-/
import ScriptBundle.Numeral.Basic

namespace ScriptBundle

namespace Real

/-! ## Exact values -/

/-- What a floating number is. -/
inductive Kind where
  /-- A finite number: its sign, and its size as a fraction. -/
  | finite (negative : Bool) (numerator denominator : Nat)
  /-- A number beyond all bounds. -/
  | infinite (negative : Bool)
  /-- No number. -/
  | undefined (negative : Bool)

/-- The exact value of a floating number. -/
def kind (x : Float) : Kind :=
  let bits := x.toBits.toNat
  let negative := bits / Nat.pow 2 63 = 1
  let exponent := bits / Nat.pow 2 52 % Nat.pow 2 11
  let fraction := bits % Nat.pow 2 52
  if exponent = 2047 then if fraction = 0 then .infinite negative else .undefined negative
  else
    let mantissa := if exponent = 0 then fraction else fraction + Nat.pow 2 52
    let power := max exponent 1
    if 1075 ≤ power then .finite negative (mantissa * Nat.pow 2 (power - 1075)) 1
    else .finite negative mantissa (Nat.pow 2 (1075 - power))

/-- The quotient rounded to the nearest whole number.  Halves go to the even neighbour. -/
def rounded (numerator denominator : Nat) : Nat :=
  let quotient := numerator / denominator
  let rest := 2 * (numerator % denominator)
  if rest < denominator then quotient
  else if denominator < rest then quotient + 1
  else if quotient % 2 = 0 then quotient
  else quotient + 1

/-- The whole number in front of the point, or `none` where there is no such number. -/
def whole? (x : Float) : Option Int :=
  match kind x with
  | .finite negative numerator denominator =>
    let size : Int := (numerator / denominator : Nat)
    some (if negative then -size else size)
  | _ => none

/-- Whether a number is a whole number. -/
def isWhole (x : Float) : Bool :=
  match kind x with
  | .finite _ numerator denominator => numerator % denominator = 0
  | _ => false

/-- The floating number nearest to a whole number. -/
def ofInt (n : Int) : Float := Float.ofInt n

/-! ## Writing -/

/-- Digits with a point in front of the last `places` ones. -/
def pointed (places : Nat) (point : Bool) (n : Nat) : Text :=
  let row := Text.ofNat n
  let row := List.replicate (places + 1 - row.length) '0' ++ row
  let front := row.take (row.length - places)
  let back := row.drop (row.length - places)
  front ++ (if back ≠ [] || point then ['.'] else []) ++ back

/-- A fraction with a given number of places. -/
def fixed (places : Nat) (point : Bool) (numerator denominator : Nat) : Text :=
  pointed places point (rounded (numerator * Nat.pow 10 places) denominator)

/-- The power of ten at which the first digit of a fraction stands. -/
def magnitude (numerator denominator : Nat) : Int :=
  if numerator = 0 then 0
  else if denominator ≤ numerator then ((Text.ofNat (numerator / denominator)).length - 1 : Nat)
  else
    let guess := (Text.ofNat denominator).length - (Text.ofNat numerator).length
    if denominator ≤ numerator * Nat.pow 10 guess then -(guess : Int) else -(guess + 1 : Nat)

/-- The digits of a fraction, one in front of the point and `places` behind it, and the power of ten
of the first one. -/
def leading (places : Nat) (numerator denominator : Nat) : Nat × Int :=
  let power := magnitude numerator denominator
  let shift : Int := places - power
  let row :=
    if 0 ≤ shift then rounded (numerator * Nat.pow 10 shift.toNat) denominator
    else rounded numerator (denominator * Nat.pow 10 (-shift).toNat)
  if Nat.pow 10 (places + 1) ≤ row then (row / 10, power + 1) else (row, power)

/-- An exponent of at least two digits. -/
def exponentText (mark : Char) (power : Int) : Text :=
  let row := Text.ofNat power.natAbs
  mark :: (if power < 0 then '-' else '+') :: (if row.length < 2 then '0' :: row else row)

/-- A fraction with an exponent. -/
def scientific (mark : Char) (places : Nat) (point : Bool) (numerator denominator : Nat) : Text :=
  let (row, power) := leading places numerator denominator
  pointed places point row ++ exponentText mark power

/-- Drops the zeros at the end of what stands behind the point, and then a point at the end. -/
def trimZeros (s : Text) : Text :=
  if '.' ∈ s then
    let kept := (s.reverse.dropWhile (· = '0')).reverse
    if kept.getLast? = some '.' then kept.dropLast else kept
  else s

/-- A fraction with a given number of digits that count, with an exponent only where it is very
small or needs more digits. -/
def general (mark : Char) (figures : Nat) (keepZeros : Bool) (numerator denominator : Nat) : Text :=
  let figures := max figures 1
  let (row, power) := leading (figures - 1) numerator denominator
  let trim := if keepZeros then id else trimZeros
  if -4 ≤ power ∧ power < figures then
    trim (fixed ((figures - 1 : Nat) - power).toNat keepZeros numerator denominator)
  else trim (pointed (figures - 1) keepZeros row) ++ exponentText mark power

/-! ## Reading -/

/-- Reads an exponent, if one stands at the head. -/
def readExponent (s : Text) : Int × Text :=
  match s with
  | mark :: rest =>
    if mark = 'e' ∨ mark = 'E' then
      let (negative, behind) := Numeral.readSign rest
      match Numeral.spanDigits 10 behind with
      | ([], _) => (0, s)
      | (row, rest) =>
        let size : Int := Numeral.value 10 row
        (if negative then -size else size, rest)
    else (0, s)
  | [] => (0, [])

/-- The floating number nearest to `row · 10 ^ power`.  Beyond the ends of the range the power does
not matter any more. -/
def ofParts (row : Nat) (power : Int) : Float :=
  if row = 0 then 0
  else
    let figures : Int := (Text.ofNat row).length
    let power := max (-400 - figures) (min 400 power)
    Float.ofScientific row (power < 0) power.natAbs

/-- Reads a size without a sign. -/
def readSize (s : Text) : Option (Float × Text) :=
  let (front, rest) := Numeral.spanDigits 10 s
  let (back, rest) := match rest with
    | '.' :: behind => Numeral.spanDigits 10 behind
    | rest => ([], rest)
  if front = [] ∧ back = [] then none
  else
    let (power, rest) := readExponent rest
    some (ofParts (Numeral.value 10 (front ++ back)) (power - back.length), rest)

/-- The words for numbers that are not finite, and for no number. -/
def readWord (s : Text) : Option (Float × Text) :=
  let lower := s.map Char.toLower
  let infinity : Float := 1.0 / 0.0
  if "infinity".toList.isPrefixOf lower then some (infinity, s.drop 8)
  else if "inf".toList.isPrefixOf lower then some (infinity, s.drop 3)
  else if "nan".toList.isPrefixOf lower then some (0.0 / 0.0, s.drop 3)
  else none

/-- Reads a number at the head of a text, behind blanks. -/
def ofText? (s : Text) : Option (Float × Text) :=
  let (negative, s) := Numeral.readSign (s.dropWhile Numeral.isBlank)
  ((readSize s).or (readWord s)).map fun (x, rest) => (if negative then -x else x, rest)

end Real

end ScriptBundle
