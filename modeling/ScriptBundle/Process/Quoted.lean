/-
# Quoted names

Reports quote the names and arguments they speak of.  One way of quoting can be put back into a
command line and quotes only what it has to, the other one always puts single quotes around.

## Main content

- `Quoted.name` quotes a name where it has to be quoted, `Quoted.always` in any case.
- `Quoted.plain` puts an argument between single quotes.
-/
import ScriptBundle.Numeral.Basic

namespace ScriptBundle

namespace Quoted

/-- The escape of a control character. -/
def controlEscape? : Char → Option Char
  | '\x07' => some 'a'
  | '\x08' => some 'b'
  | '\x0c' => some 'f'
  | '\n' => some 'n'
  | '\x0d' => some 'r'
  | '\t' => some 't'
  | '\x0b' => some 'v'
  | _ => none

/-- Whether a character is shown as it is. -/
def isPrintable (c : Char) : Bool := ' ' ≤ c && c ≤ '~'

/-- A character that is not printable, behind a backslash. -/
def escaped (c : Char) : Text :=
  match controlEscape? c with
  | some letter => ['\\', letter]
  | none =>
    let row := Numeral.digits 8 c.toNat
    '\\' :: (List.replicate (3 - row.length) '0' ++ row)

/-- An argument between single quotes. -/
def plain (s : Text) : Text :=
  let inside := s.flatMap fun c =>
    if c = '\'' ∨ c = '\\' then ['\\', c] else if isPrintable c then [c] else escaped c
  ['\''] ++ inside ++ ['\'']

/-- The characters that mean something in a command line. -/
def special : Text := " !\"$&()*;<=>[^\x60|\\?'".toList

/-- Whether a name has to be quoted. -/
def needsQuotes (s : Text) : Bool :=
  s = [] || s = ['\x7b'] || s = ['\x7d'] || s.head? = some '#' || s.head? = some '~' ||
    s.any fun c => special.contains c || !isPrintable c

/-- Whether double quotes around a name leave it as it is. -/
def fitsDouble (s : Text) : Bool :=
  s.all fun c => isPrintable c && !("\"$\x60\\!".toList.contains c)

/-- The inside of single quotes, which are left for what is not printable. -/
def quotedRuns : Bool → Text → Text
  | false, [] => ['\'']
  | true, [] => ['\'']
  | isEscaping, c :: s =>
    if isPrintable c then
      (if isEscaping then ['\'', '\''] else []) ++
        (if c = '\'' then ['\'', '\\', '\'', '\''] else [c]) ++ quotedRuns false s
    else (if isEscaping then [] else ['\'', '$', '\'']) ++ escaped c ++ quotedRuns true s

/-- A name in quotes. -/
def always (s : Text) : Text :=
  if s.contains '\'' && fitsDouble s then ['"'] ++ s ++ ['"'] else '\'' :: quotedRuns false s

/-- A name, in quotes if it has to be quoted. -/
def shown (s : Text) : Text := if needsQuotes s then always s else s

/-- A name in front of a colon, in quotes if it has to be quoted or has a colon in it. -/
def name (s : Text) : Text := if needsQuotes s || s.contains ':' then always s else s

end Quoted

end ScriptBundle
