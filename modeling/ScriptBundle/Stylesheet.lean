/-
# Stylesheets

The style blocks of all components, in the order in which the components are first read.

## Main content

- `Stylesheet.css` is the text of a stylesheet; `css_append` says that it grows at its end.
-/
import ScriptBundle.Path

namespace ScriptBundle

/-- A style block lifted out of a component. -/
structure Stylesheet.Block where
  /-- The component that the block stands in. -/
  component : Path
  /-- The lines of the block. -/
  css : Text
  deriving DecidableEq

/-- Style blocks in the order in which they were found. -/
abbrev Stylesheet := List Stylesheet.Block

namespace Stylesheet

/-- The blocks that the style texts of one component make. -/
def ofComponent (component : Path) (styles : List Text) : Stylesheet :=
  styles.map fun css => ⟨component, css⟩

/-- The text of all blocks. -/
def css (sheet : Stylesheet) : Text := sheet.flatMap Block.css

/-- What is added behind a stylesheet stands behind its text. -/
theorem css_append (sheet more : Stylesheet) : css (sheet ++ more) = css sheet ++ css more :=
  List.flatMap_append

end Stylesheet

end ScriptBundle
