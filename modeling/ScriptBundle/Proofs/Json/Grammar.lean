/-
# The grammar of JSON

How JSON values are written, independently of how they are read: which texts stand for a value, and
which text a string stands for.

## Main content

- `Json.Writes` relates values, and the lists of values and members inside them, to the texts that
  they can be written as; `Json.IsNumber` and `Json.WritesUnits` do so for numbers and the insides of
  strings.
- `Json.Denotes` relates the units of a string to the text that they stand for: a character stands for
  itself, or is given by its code units in UTF-16.
-/
import ScriptBundle.Json

namespace ScriptBundle

namespace Json

/-! ## Blanks -/

/-- Blanks between the parts of a value: spaces, tabs and line breaks. -/
def IsBlank (s : Text) : Prop := ∀ c ∈ s, c ∈ [' ', '\t', '\n', '\r']

/-! ## Numbers -/

/-- At least one decimal digit. -/
def IsDigits (s : Text) : Prop := s ≠ [] ∧ ∀ c ∈ s, c.isDigit = true

/-- The integer part of a number: a zero, or digits of which the first is not a zero. -/
inductive IsInteger : Text → Prop
  | zero : IsInteger ['0']
  | digits {s : Text} (h : IsDigits s) (hzero : s.head? ≠ some '0') : IsInteger s

/-- The decimal places of a number, which may be missing. -/
inductive IsFraction : Text → Prop
  | missing : IsFraction []
  | places {s : Text} (h : IsDigits s) : IsFraction ('.' :: s)

/-- The exponent of a number, which may be missing. -/
inductive IsExponent : Text → Prop
  | missing : IsExponent []
  | power {letter : Char} {sign s : Text} (hletter : letter = 'e' ∨ letter = 'E')
    (hsign : sign = [] ∨ sign = ['+'] ∨ sign = ['-']) (h : IsDigits s) :
    IsExponent (letter :: (sign ++ s))

/-- A number: perhaps a minus, then its integer part, its decimal places and its exponent. -/
inductive IsNumber : Text → Prop
  | intro {sign s t u : Text} (hsign : sign = [] ∨ sign = ['-']) (hinteger : IsInteger s)
    (hfraction : IsFraction t) (hexponent : IsExponent u) : IsNumber (sign ++ (s ++ (t ++ u)))

/-! ## Strings -/

/-- The letters of escapes, each with the character that it stands for. -/
def escapeLetters : List (Char × Char) :=
  [('"', '"'), ('\\', '\\'), ('/', '/'), ('b', '\x08'), ('f', '\x0C'), ('n', '\n'), ('r', '\r'),
    ('t', '\t')]

/-- The hexadecimal digits in both cases, each with its value. -/
def hexDigits : List (Char × Nat) :=
  "0123456789abcdef".toList.zipIdx ++ "ABCDEF".toList.zipIdx 10

/-- How one unit of a string is written: a character as it is, if it is no quote, backslash or control
character, or behind a backslash, and a code unit by four hexadecimal digits. -/
inductive WritesUnit : JsonUnit → Text → Prop
  | plain {c : Char} (hquote : c ≠ '"') (hescape : c ≠ '\\') (hcontrol : 0x20 ≤ c.toNat) :
    WritesUnit (.char c) [c]
  | letter {letter c : Char} (h : (letter, c) ∈ escapeLetters) : WritesUnit (.char c) ['\\', letter]
  | code {a b c d : Char} {i j k n : Nat} (ha : (a, i) ∈ hexDigits) (hb : (b, j) ∈ hexDigits)
    (hc : (c, k) ∈ hexDigits) (hd : (d, n) ∈ hexDigits) :
    WritesUnit (.code (((i * 16 + j) * 16 + k) * 16 + n)) ['\\', 'u', a, b, c, d]

/-- How the units of a string are written, one after the other. -/
inductive WritesUnits : List JsonUnit → Text → Prop
  | nil : WritesUnits [] []
  | cons {unit : JsonUnit} {units : List JsonUnit} {s t : Text} (h : WritesUnit unit s)
    (hrest : WritesUnits units t) : WritesUnits (unit :: units) (s ++ t)

/-- The units that stand for a character: the character itself, its code unit, or, above U+FFFF, the
two code units of its surrogate pair. -/
inductive StandsFor (c : Char) : List JsonUnit → Prop
  | char : StandsFor c [.char c]
  | code (h : c.toNat < 0x10000) : StandsFor c [.code c.toNat]
  | pair (h : 0x10000 ≤ c.toNat) :
    StandsFor c [.code (0xD800 + (c.toNat - 0x10000) / 0x400),
      .code (0xDC00 + (c.toNat - 0x10000) % 0x400)]

/-- The units of a string stand for a text, character by character. -/
inductive Denotes : List JsonUnit → Text → Prop
  | nil : Denotes [] []
  | cons {c : Char} {units rest : List JsonUnit} {s : Text} (h : StandsFor c units)
    (hrest : Denotes rest s) : Denotes (units ++ rest) (c :: s)

/-- Characters stand for themselves. -/
theorem Denotes.chars (s : Text) : Denotes (s.map .char) s := by
  induction s with
  | nil => exact .nil
  | cons c s ih => exact .cons .char ih

/-! ## Values -/

/-- What the grammar says how to write: a value, a value with blanks around it, the values of a list,
or the members of an object. -/
inductive Phrase where
  /-- A value. -/
  | value (v : Json)
  /-- A value with blanks around it. -/
  | item (v : Json)
  /-- The values of a list that is not empty. -/
  | elements (values : List Json)
  /-- The members of an object that is not empty. -/
  | members (entries : List (List JsonUnit × Json))

/-- How the key of a member is written, with blanks around it. -/
inductive WritesKey (key : List JsonUnit) : Text → Prop
  | intro {front s back : Text} (hfront : IsBlank front) (h : WritesUnits key s)
    (hback : IsBlank back) : WritesKey key (front ++ '"' :: (s ++ '"' :: back))

/-- How phrases are written. -/
inductive Writes : Phrase → Text → Prop
  | nullWord : Writes (.value .null) "null".toList
  | trueWord : Writes (.value (.bool true)) "true".toList
  | falseWord : Writes (.value (.bool false)) "false".toList
  | number {s : Text} (h : IsNumber s) : Writes (.value .number) s
  | string {units : List JsonUnit} {s : Text} (h : WritesUnits units s) :
    Writes (.value (.string units)) ('"' :: (s ++ ['"']))
  | emptyArray {s : Text} (h : IsBlank s) : Writes (.value (.array [])) ('[' :: (s ++ [']']))
  | array {values : List Json} {s : Text} (h : Writes (.elements values) s) :
    Writes (.value (.array values)) ('[' :: (s ++ [']']))
  | emptyObject {s : Text} (h : IsBlank s) : Writes (.value (.object [])) ('{' :: (s ++ ['}']))
  | object {members : List (List JsonUnit × Json)} {s : Text} (h : Writes (.members members) s) :
    Writes (.value (.object members)) ('{' :: (s ++ ['}']))
  | item {v : Json} {front s back : Text} (hfront : IsBlank front) (h : Writes (.value v) s)
    (hback : IsBlank back) : Writes (.item v) (front ++ (s ++ back))
  | lastElement {v : Json} {s : Text} (h : Writes (.item v) s) : Writes (.elements [v]) s
  | element {v : Json} {values : List Json} {s t : Text} (h : Writes (.item v) s)
    (hrest : Writes (.elements values) t) : Writes (.elements (v :: values)) (s ++ ',' :: t)
  | lastMember {key : List JsonUnit} {v : Json} {k s : Text} (hkey : WritesKey key k)
    (h : Writes (.item v) s) : Writes (.members [(key, v)]) (k ++ ':' :: s)
  | member {key : List JsonUnit} {v : Json} {members : List (List JsonUnit × Json)} {k s t : Text}
    (hkey : WritesKey key k) (h : Writes (.item v) s) (hrest : Writes (.members members) t) :
    Writes (.members ((key, v) :: members)) (k ++ ':' :: (s ++ ',' :: t))

end Json

end ScriptBundle
