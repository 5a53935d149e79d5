/-
# Options

The arguments of a program are options and operands.  An option is a letter behind a dash, or a word
behind two, and may have a value.

## Main content

- `OptionForm.table` lists the options of a program, as written in one line.
- `Options.read` takes the arguments of a program apart; `Task.options` does so for the running one.
-/
import ScriptBundle.Process.Task

namespace ScriptBundle

/-- Whether an option has a value. -/
inductive Demand where
  /-- It has none. -/
  | never
  /-- It always has one. -/
  | always
  /-- It may have one. -/
  | maybe
  deriving DecidableEq

/-- An option of a program. -/
structure OptionForm where
  /-- Its letter, or its word where it has no letter. -/
  name : Text
  /-- Its word, if it has one. -/
  word : Text
  /-- Whether it has a value. -/
  demand : Demand

namespace OptionForm

/-- The option of an entry: a letter and a word on both sides of a bar, or one of the two, and a sign
for the value behind them. -/
def ofEntry (entry : Text) : OptionForm :=
  let demand : Demand := match entry.getLast? with
    | some ':' => .always
    | some '?' => .maybe
    | _ => .never
  let bare := if demand = .never then entry else entry.dropLast
  match Text.splitWith (· = '|') bare with
  | [letter, word] => ⟨letter, word, demand⟩
  | _ => ⟨bare, if bare.length = 1 then [] else bare, demand⟩

/-- The options of a table, which are separated by blanks. -/
def table (s : String) : List OptionForm :=
  ((Text.splitWith (· = ' ') s.toList).filter (· ≠ [])).map ofEntry

end OptionForm

/-- The arguments of a program. -/
structure Options where
  /-- The options with their values, in the order in which they are given. -/
  given : List (Text × Text) := []
  /-- The operands. -/
  operands : List Text := []

namespace Options

/-- Whether an option is given. -/
def has (o : Options) (name : String) : Bool := o.given.any (·.1 = name.toList)

/-- The last value of an option. -/
def value? (o : Options) (name : String) : Option Text := o.given.reverse.lookup name.toList

/-- All values of an option. -/
def values (o : Options) (name : String) : List Text :=
  o.given.filterMap fun entry => if entry.1 = name.toList then some entry.2 else none

/-- Which of several options is given last. -/
def lastOf (o : Options) (names : List String) : Option Text :=
  (o.given.reverse.find? fun entry => names.any fun name => entry.1 = name.toList).map (·.1)

/-- Adds an option. -/
def add (o : Options) (name value : Text) : Options := { o with given := o.given ++ [(name, value)] }

/-- The option that a word or the beginning of one stands for. -/
def findWord (forms : List OptionForm) (word : Text) : Except Text OptionForm :=
  let dashed (s : Text) : Text := ['\'', '-', '-'] ++ s ++ ['\'']
  match forms.find? fun form => form.word = word && word ≠ [] with
  | some form => .ok form
  | none =>
    match forms.filter fun form => form.word ≠ [] && word.isPrefixOf form.word with
    | [] => .error ("unrecognized option ".toList ++ dashed word)
    | [form] => .ok form
    | form :: others =>
      if others.all fun other => other.name = form.name then .ok form
      else
        let possible := (form :: others).flatMap fun other => ' ' :: dashed other.word
        .error ("option ".toList ++ dashed word ++ " is ambiguous; possibilities:".toList ++ possible)

/-- Reads an option that is a word.  The answer has the arguments behind it. -/
def readWord (forms : List OptionForm) (o : Options) (arg : Text) (args : List Text) :
    Except Text (Options × List Text) := do
  let word := arg.takeWhile (· ≠ '=')
  let value? := (arg.drop word.length).tail?
  let form ← findWord forms word
  let quoted : Text := ['\'', '-', '-'] ++ form.word ++ ['\'']
  match form.demand, value?, args with
  | .never, some _, _ => .error ("option ".toList ++ quoted ++ " doesn't allow an argument".toList)
  | .always, none, value :: args => .ok (o.add form.name value, args)
  | .always, none, [] => .error ("option ".toList ++ quoted ++ " requires an argument".toList)
  | _, value?, args => .ok (o.add form.name (value?.getD []), args)

/-- Reads options that are letters behind one dash. -/
def readLetters (forms : List OptionForm) (args : List Text) :
    Options → Text → Except Text (Options × List Text)
  | o, [] => .ok (o, args)
  | o, letter :: rest => do
    match forms.find? fun form => form.name = [letter] with
    | none => .error ("invalid option -- '".toList ++ [letter, '\''])
    | some form =>
      match form.demand with
      | .never => readLetters forms args (o.add form.name []) rest
      | .maybe => .ok (o.add form.name rest, args)
      | .always =>
        if rest ≠ [] then .ok (o.add form.name rest, args)
        else
          match args with
          | value :: args => .ok (o.add form.name value, args)
          | [] => .error ("option requires an argument -- '".toList ++ [letter, '\''])

/-- Takes arguments apart.  Where options may stand behind operands, all operands are passed over;
else the first one ends the options. -/
def readWithin (forms : List OptionForm) (mixed : Bool) :
    Nat → Options → List Text → Except Text Options
  | 0, o, args => .ok { o with operands := o.operands ++ args }
  | limit + 1, o, args => do
    match args with
    | [] => .ok o
    | ['-', '-'] :: args => .ok { o with operands := o.operands ++ args }
    | ('-' :: '-' :: word) :: args =>
      let (o, args) ← readWord forms o word args
      readWithin forms mixed limit o args
    | ('-' :: letter :: letters) :: args =>
      let (o, args) ← readLetters forms args o (letter :: letters)
      readWithin forms mixed limit o args
    | operand :: args =>
      if mixed then readWithin forms mixed limit { o with operands := o.operands ++ [operand] } args
      else .ok { o with operands := o.operands ++ operand :: args }

/-- Takes arguments apart, or says what is wrong with them. -/
def read (forms : List OptionForm) (mixed : Bool) (args : List Text) : Except Text Options :=
  readWithin forms mixed args.length {} args

end Options

namespace Task

/-- The arguments of the program, taken apart.  Wrong ones end it with a status. -/
def options (table : String) (mixed : Bool) (status : Nat) : Task Options := do
  match Options.read (OptionForm.table table) mixed (← read).args with
  | .ok o => return o
  | .error message => misuse message status

/-- The arguments of a program that has options and operands in any order. -/
def usualOptions (table : String) : Task Options := options table true 1

end Task

end ScriptBundle
