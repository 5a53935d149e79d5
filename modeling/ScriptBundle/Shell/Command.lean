/-
# Commands of the shell

The forms of commands, and of the words that they are made of.

## Main content

- `WordPart` is a part of a word; a word is a list of parts.
- `Command` is a command; `Redirection` changes where its handles lead.
-/
import ScriptBundle.Text.Basic

namespace ScriptBundle

namespace Shell

mutual

/-- A part of a word. -/
inductive WordPart where
  /-- Characters that may mean something. -/
  | bare (s : Text)
  /-- Characters that stand for themselves. -/
  | quoted (s : Text)
  /-- Quotes.  They make a field also where nothing stands between them. -/
  | mark
  /-- All arguments between quotes, without anything else. -/
  | arguments
  /-- The value of a parameter. -/
  | parameter (name : Text) (use : ParameterUse) (isQuoted : Bool)
  /-- What a command writes. -/
  | output (command : Command) (isQuoted : Bool)
  /-- The value of an arithmetic expression. -/
  | arithmetic (expression : List WordPart) (isQuoted : Bool)

/-- How the value of a parameter is used. -/
inductive ParameterUse where
  /-- As it is. -/
  | plain
  /-- Its length. -/
  | length
  /-- In no way that is known. -/
  | unknown
  /-- With a word in its place: a sign says when and how, and whether an empty value counts as
  none. -/
  | instead (sign : Char) (orEmpty : Bool) (word : List WordPart)
  /-- Without a part at its start or end, the shortest or longest one that has a form. -/
  | without (atEnd longest : Bool) (form : List WordPart)

/-- A change of where a handle leads. -/
inductive Redirection where
  /-- To a file or another handle, as a sign says. -/
  | file (handle : Nat) (sign : Text) (target : List WordPart)
  /-- To a document, by its number. -/
  | document (handle number : Nat)

/-- A command. -/
inductive Command where
  /-- Nothing. -/
  | nothing
  /-- Values for names, words, and redirections. -/
  | simple (line : Nat) (assignments : List (Text × List WordPart)) (words : List (List WordPart))
      (redirections : List Redirection)
  /-- One command after another. -/
  | sequence (first second : Command)
  /-- A second command if the first succeeds. -/
  | ifOk (first second : Command)
  /-- A second command if the first fails. -/
  | ifFailed (first second : Command)
  /-- A command whose success is failure. -/
  | negated (body : Command)
  /-- Commands of which each one reads what the one before writes. -/
  | pipeline (commands : List Command)
  /-- A command that is not waited for. -/
  | background (body : Command)
  /-- A choice. -/
  | branch (condition first second : Command)
  /-- A loop as long as a condition succeeds or fails. -/
  | loop (isUntil : Bool) (condition body : Command)
  /-- A loop over words, or over the arguments. -/
  | forEach (line : Nat) (name : Text) (words : Option (List (List WordPart))) (body : Command)
  /-- A choice by the form of a word. -/
  | choose (line : Nat) (subject : List WordPart) (clauses : List (List (List WordPart) × Command))
  /-- A command in a shell of its own. -/
  | subshell (line : Nat) (body : Command) (redirections : List Redirection)
  /-- A command with redirections. -/
  | redirected (line : Nat) (body : Command) (redirections : List Redirection)
  /-- The definition of a function. -/
  | define (line : Nat) (name : Text) (body : Command)

end

/-- A word is a list of parts. -/
abbrev Word := List WordPart

/-- The text of a word without quotes and substitutions. -/
def bareText? : Word → Option Text
  | [] => some []
  | [.bare s] => some s
  | _ => none

/-- Whether a character can stand at the start of a name. -/
def startsName (c : Char) : Bool := c.isAlpha || c = '_'

/-- Whether a character can stand in a name. -/
def continuesName (c : Char) : Bool := c.isAlphanum || c = '_'

/-- Whether a text is a name. -/
def isName (s : Text) : Bool :=
  match s with
  | [] => false
  | c :: s => startsName c && s.all continuesName

/-- The special commands of the shell. -/
def specialNames : List String :=
  [".", ":", "break", "continue", "eval", "exec", "exit", "export", "readonly", "return", "set",
    "shift", "times", "trap", "unset"]

end Shell

end ScriptBundle
