/-
# The text of a bundle

A bundle is the loader, applied to the table of all modules, an empty cache and the number of the
module to run.

## Main content

- `Bundle.moduleText` writes one module: its number, its text inside a function, and the numbers of
  the modules that it requires.
- `Bundle.text` writes all modules behind the loader.
-/
import ScriptBundle.Bundle.Loader
import ScriptBundle.Markup.Literal
import ScriptBundle.ModuleTable

namespace ScriptBundle

namespace Bundle

/-- A dependency: the target as a literal, and the number of its module. -/
def dependencyText (entry : Text × ModuleNumber) : Text :=
  Literal.quote entry.1 ++ [':', ' '] ++ Text.ofNat entry.2

/-- The dependencies of a module, in ascending order of the targets. -/
def dependenciesText (dependencies : Dependencies) : Text :=
  '{' :: Text.join [',', ' '] (dependencies.map dependencyText) ++ ['}']

/-- A module in the table. -/
def moduleText (m : Module) : Text :=
  Text.ofNat m.number ++ ":[function(require,module,exports)\x7b".toList ++ m.text ++ ['}', ','] ++
    dependenciesText m.dependencies ++ [']']

/-- What follows the loader: the table, the cache and the entry. -/
def callText (modules : List Module) (entry : ModuleNumber) : Text :=
  "(\x7b ".toList ++ Text.join [',', ' '] (modules.map moduleText) ++
    " \x7d, \x7b\x7d, [".toList ++ Text.ofNat entry ++ "]);".toList

/-- The text of a bundle. -/
def text (modules : List Module) (entry : ModuleNumber) : Text :=
  Loader.script ++ callText modules entry

end Bundle

end ScriptBundle
