/-
# Compiler programs

A compiler can be a program: it reads the markup and writes the render functions.

## Main content

- `CompilerCommand.ofLine?` reads a command line; `CompilerCommand.compiler` is the compiler that
  runs it.
-/
import ScriptBundle.Markup.Answer
import ScriptBundle.Program
import ScriptBundle.Text.Blank

namespace ScriptBundle

/-- A program with its arguments. -/
structure CompilerCommand where
  /-- The name or path of the program. -/
  program : Text
  /-- The arguments. -/
  args : List Text := []
  deriving DecidableEq

namespace CompilerCommand

/-- The command of a line: its words, of which there must be one. -/
def ofLine? (line : Text) : Option CompilerCommand :=
  match Text.words line with
  | program :: args => some { program, args }
  | [] => none

/-- A line has a command exactly if it has a word. -/
theorem ofLine?_eq_none_iff {line : Text} : ofLine? line = none ↔ Text.words line = [] := by
  unfold ofLine?
  split <;> simp_all

/-- What a compiler program that ran makes of the markup. -/
def answer (program : Text) (result : ProgramResult) : Except CompilerFault RenderFunctions :=
  if result.status = 0 then
    match RenderFunctions.ofBytes? result.output with
    | some functions => .ok functions
    | none => .error .unreadable
  else .error (.failed program result.status (Text.trim (Utf8.decodeLossy result.report)))

/-- How many bytes can wait for a program to read them. -/
def waitingLimit : Nat := 65536

/-- The compiler that runs the command on the markup.  A program that ends before it has read all of
a long markup breaks the pipe to it. -/
def compiler (command : CompilerCommand) : Compiler := fun markup => ExceptT.mk fun fs =>
  match Program.run fs command.program command.args (Utf8.encode markup) with
  | .error fault => (.error (.notRun command.program fault), fs)
  | .ok result =>
    if waitingLimit < result.unread then
      (.error (.notRun command.program .brokenPipe), result.files)
    else (answer command.program result, result.files)

end CompilerCommand

end ScriptBundle
