/-
# Texts as string literals

A text that is shipped inside a script is written as a string literal in double quotes.

## Main content

- `Literal.escape` writes the inside of the literal; `escape_append` says that it goes character by
  character.
- `Literal.exportText` is the script that exports a text.
-/
import ScriptBundle.Text.Basic

namespace ScriptBundle

namespace Literal

/-- How a character is written inside a literal: backslashes and quotes behind a backslash, the line
breaks of scripts by an escape, and all else as it is. -/
def escapeChar (c : Char) : Text :=
  if c = '\\' then ['\\', '\\']
  else if c = '"' then ['\\', '"']
  else if c = '\n' then ['\\', 'n']
  else if c = '\r' then ['\\', 'r']
  else if c = '\u2028' then "\\u2028".toList
  else if c = '\u2029' then "\\u2029".toList
  else [c]

/-- The inside of the literal for a text. -/
def escape (s : Text) : Text := s.flatMap escapeChar

@[simp] theorem escape_nil : escape [] = [] := rfl

@[simp] theorem escape_cons (c : Char) (s : Text) : escape (c :: s) = escapeChar c ++ escape s := rfl

/-- Escaping goes character by character. -/
theorem escape_append (s t : Text) : escape (s ++ t) = escape s ++ escape t := List.flatMap_append

/-- The literal for a text, with its quotes. -/
def quote (s : Text) : Text := '"' :: escape s ++ ['"']

/-- The script that exports a text. -/
def exportText (s : Text) : Text := "module.exports = ".toList ++ quote s ++ [';', '\n']

end Literal

end ScriptBundle
