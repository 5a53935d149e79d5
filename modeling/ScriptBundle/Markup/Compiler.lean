/-
# Compilers of markup

A compiler turns the markup of a template into the bodies of functions that render it.

## Main content

- `RenderFunctions.optionText` is the script text that takes the place of a template.
- `CompilerFault` lists the ways in which a compiler fails, with their wording.
- `Compiler` turns markup into render functions and may change files on the way;
  `Compiler.ofFunction` builds one that does not, and `Compiler.IsPure` says that one does not.
-/
import ScriptBundle.FileSystem.Basic

namespace ScriptBundle

/-- A compiled template: the bodies of its functions. -/
structure RenderFunctions where
  /-- The body of the function that renders the template. -/
  render : Text
  /-- The bodies of the functions that render its constant parts. -/
  statics : List Text := []
  deriving DecidableEq

namespace RenderFunctions

/-- A function with the given body. -/
def function (body : Text) : Text := "function() \x7b".toList ++ body ++ ['}']

/-- The options of a component that stand for its template. -/
def optionText (functions : RenderFunctions) : Text :=
  "render: ".toList ++ function functions.render ++
    (if functions.statics = [] then []
      else ",staticRenderFns: [".toList ++
        functions.statics.flatMap (fun body => function body ++ [',']) ++ [']'])

end RenderFunctions

/-- Why markup was not compiled. -/
inductive CompilerFault where
  /-- The compiler program did not run. -/
  | notRun (program : Text) (fault : IoFault)
  /-- The compiler program failed and wrote a report. -/
  | failed (program : Text) (status : Nat) (report : Text)
  /-- The compiler program did not write render functions. -/
  | unreadable
  /-- The compiler refuses the markup. -/
  | rejected (message : Text)
  deriving DecidableEq

namespace CompilerFault

/-- The wording of a fault. -/
def text : CompilerFault → Text
  | .notRun program fault =>
    "failed to run `".toList ++ program ++ "`: ".toList ++ fault.text
  | .failed program status report =>
    "`".toList ++ program ++ "` exited with exit status: ".toList ++ Text.ofNat status ++
      ": ".toList ++ report
  | .unreadable => "unreadable compiler output".toList
  | .rejected message => message

end CompilerFault

/-- A compiler of markup.  It may look at the files and change them, also when it fails. -/
abbrev Compiler := Text → ExceptT CompilerFault (StateM FileSystem) RenderFunctions

namespace Compiler

/-- The compiler that does not look at any file. -/
def ofFunction (f : Text → Except CompilerFault RenderFunctions) : Compiler := fun markup =>
  ExceptT.mk (pure (f markup))

/-- Whether a compiler neither looks at files nor changes them. -/
def IsPure (compiler : Compiler) : Prop :=
  ∃ f : Text → Except CompilerFault RenderFunctions, compiler = ofFunction f

/-- A compiler without files leaves all files as they are. -/
theorem run_ofFunction (f : Text → Except CompilerFault RenderFunctions) (markup : Text)
    (fs : FileSystem) : (ofFunction f markup).run.run fs = (f markup, fs) := rfl

/-- The compiler whose render function is the markup between two fixed texts. -/
def framing (before after : Text) (statics : List Text) : Compiler :=
  ofFunction fun markup => .ok ⟨before ++ markup ++ after, statics⟩

/-- The compiler that refuses markup in which `needle` stands, and else does what another does. -/
def refusing (needle message : Text) (compiler : Compiler) : Compiler := fun markup =>
  if Text.occurs needle markup then throw (.rejected message) else compiler markup

end Compiler

end ScriptBundle
