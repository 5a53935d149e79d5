/-
# Written whole numbers

Whole numbers in several bases, as programs read them from texts and write them.

## Main content

- `Numeral.value` is the number of a row of digits and `Numeral.digits` the row of a number.
- `Numeral.readInteger` reads a number from the head of a text.
- `Numeral.wrap` and `Numeral.clamp` bring numbers into the range of 64 bits.
-/
import ScriptBundle.Text.Basic

namespace ScriptBundle

namespace Numeral

/-- The value of a digit.  Letters are the digits from ten on. -/
def digitValue? (c : Char) : Option Nat :=
  if '0' ≤ c ∧ c ≤ '9' then some (c.toNat - '0'.toNat)
  else if 'a' ≤ c ∧ c ≤ 'z' then some (c.toNat - 'a'.toNat + 10)
  else if 'A' ≤ c ∧ c ≤ 'Z' then some (c.toNat - 'A'.toNat + 10)
  else none

/-- Whether a character is a digit in a base. -/
def isDigit (base : Nat) (c : Char) : Bool := (digitValue? c).any (· < base)

/-- The number of a row of digits. -/
def value (base : Nat) (s : Text) : Nat :=
  s.foldl (fun n c => n * base + (digitValue? c).getD 0) 0

/-- The digits of a number. -/
def digits (base : Nat) (n : Nat) : Text := Nat.toDigits base n

/-- The decimal form of a number. -/
def ofInt (n : Int) : Text :=
  if n < 0 then '-' :: Text.ofNat n.natAbs else Text.ofNat n.natAbs

/-- The digits at the head of a text, and what follows. -/
def spanDigits (base : Nat) (s : Text) : Text × Text := s.span (isDigit base)

/-- Whether a text is a row of decimal digits. -/
def isRow (s : Text) : Bool := s ≠ [] && s.all Char.isDigit

/-- The number of a row of decimal digits. -/
def ofRow? (s : Text) : Option Nat := if isRow s then some (value 10 s) else none

/-- The greatest number of 64 bits with a sign. -/
def greatest : Int := Nat.pow 2 63 - 1

/-- The least number of 64 bits with a sign. -/
def least : Int := -Nat.pow 2 63

/-- The number in the range of 64 bits that is equal to a number but for whole turns. -/
def wrap (n : Int) : Int := Int.bmod n (Nat.pow 2 64)

/-- The number in the range of 64 bits that is nearest to a number. -/
def clamp (n : Int) : Int := max least (min greatest n)

/-- The number without a sign that has the same 64 bits. -/
def unsigned (n : Int) : Nat := (n % Nat.pow 2 64).toNat

/-- Whether a character is blank in front of a number. -/
def isBlank (c : Char) : Bool := c = ' ' || ('\t' ≤ c && c ≤ '\x0d')

/-- Reads a sign. -/
def readSign (s : Text) : Bool × Text :=
  match s with
  | '-' :: s => (true, s)
  | '+' :: s => (false, s)
  | s => (false, s)

/-- Reads the number behind a sign.  Where the base is open, a zero in front announces the base
eight, and a zero with an `x` the base sixteen. -/
def readNatural (anyBase : Bool) (s : Text) : Option (Nat × Text) :=
  let inBase (base : Nat) (s : Text) : Option (Nat × Text) :=
    match spanDigits base s with
    | ([], _) => none
    | (row, rest) => some (value base row, rest)
  if anyBase then
    match s with
    | '0' :: x :: rest =>
      if x = 'x' ∨ x = 'X' then
        match inBase 16 rest with
        | some found => some found
        | none => some (0, x :: rest)
      else inBase 8 s
    | s => inBase 10 s
  else inBase 10 s

/-- Reads a whole number at the head of a text, behind blanks. -/
def readInteger (anyBase : Bool) (s : Text) : Option (Int × Text) :=
  let (negative, s) := readSign (s.dropWhile isBlank)
  (readNatural anyBase s).map fun (n, rest) => (if negative then -(n : Int) else n, rest)

/-- Reads at most `limit` digits and gives their number. -/
def readLimited (base limit : Nat) (s : Text) : Nat × Text :=
  let row := (s.take limit).takeWhile (isDigit base)
  (value base row, s.drop row.length)

end Numeral

end ScriptBundle
