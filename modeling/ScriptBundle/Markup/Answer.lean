/-
# Answers of compiler programs

A compiler program answers with a JSON value: an object with the body of the render function and
perhaps the bodies of the static ones, or a list of these two in this order.

## Main content

- `RenderFunctions.ofJson?` reads a value; `RenderFunctions.ofBytes?` what a program wrote.
- Members with other keys are passed over, and a repeated member is refused.
-/
import ScriptBundle.Json
import ScriptBundle.Markup.Compiler

namespace ScriptBundle

namespace RenderFunctions

/-- The key of the render function. -/
def renderKey : Text := "render".toList

/-- The key of the static render functions. -/
def staticsKey : Text := "staticRenderFns".toList

/-- The values of the members with the given key. -/
def valuesOf (key : Text) (members : List (Text × Json)) : List Json :=
  members.filterMap fun member => if member.1 = key then some member.2 else none

/-- The members of an object with the texts of their keys. -/
def keyed? (members : List (List JsonUnit × Json)) : Option (List (Text × Json)) :=
  members.mapM fun member => (Json.unitsText? member.1).map fun key => (key, member.2)

/-- Reads render functions from a JSON value. -/
def ofJson? : Json → Option RenderFunctions
  | .object members => do
    let members ← keyed? members
    match valuesOf renderKey members, valuesOf staticsKey members with
    | [render], [] => some ⟨← render.string?, []⟩
    | [render], [statics] => some ⟨← render.string?, ← statics.strings?⟩
    | _, _ => none
  | .array [render] => do some ⟨← render.string?, []⟩
  | .array [render, statics] => do some ⟨← render.string?, ← statics.strings?⟩
  | _ => none

/-- Reads render functions from symbols. -/
def ofSymbols? (s : Json.Symbols) : Option RenderFunctions := Json.ofSymbols? s >>= ofJson?

/-- Reads render functions from what a program wrote. -/
def ofBytes? (bytes : Bytes) : Option RenderFunctions := ofSymbols? (Utf8.symbols bytes)

end RenderFunctions

end ScriptBundle
