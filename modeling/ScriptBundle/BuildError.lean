/-
# Why a bundle is not made

All causes for which a build stops, and the words in which they are reported.

## Main content

- `BuildError` lists the causes; `BuildError.message` is the wording of each.
- `BuildError.causes` are the causes behind a cause, and `BuildError.report` puts them in a row.
-/
import ScriptBundle.Component.Basic
import ScriptBundle.FileSystem.Fault

namespace ScriptBundle

/-- Why a build stopped. -/
inductive BuildError where
  /-- A file operation failed. -/
  | io (fault : IoFault)
  /-- A file could not be read. -/
  | unreadable (file : Path) (fault : IoFault)
  /-- A target leads to no file. -/
  | unresolved (target : Text) (requester : Path)
  /-- Files require each other in a circle, given by the paths on it. -/
  | circular (chain : List Path)
  /-- A component is defective. -/
  | component (file : Path) (defect : Component.Defect)
  /-- A template was not compiled. -/
  | template (file : Path) (message : Text)
  /-- A file could not be written. -/
  | output (file : Path) (message : Text)
  /-- A text could not be put together. -/
  | format
  /-- More files are open inside each other than there can be paths. -/
  | tooDeep
  deriving DecidableEq

namespace BuildError

/-- The wording of a defect of a component. -/
def defectMessage (file : Path) : Component.Defect → Text
  | .scopedStyle => "Scoped styles are not supported (in ".toList ++ file.text ++ [')']
  | .missingTemplate =>
    "Template needs to be defined before <script> in ".toList ++ file.text
  | .unterminated block =>
    "Unterminated <".toList ++ block.tag ++ "> block in ".toList ++ file.text

/-- What is wrong when a text cannot be put together. -/
def formatFault : Text := "an error occurred when formatting an argument".toList

/-- The wording of a circle: its paths with arrows between them. -/
def chainText (chain : List Path) : Text := Text.join " -> ".toList (chain.map Path.text)

/-- The wording of a cause. -/
def message : BuildError → Text
  | .io fault => "I/O error: ".toList ++ fault.text
  | .unreadable file fault => "Failed to read ".toList ++ file.text ++ ": ".toList ++ fault.text
  | .unresolved target requester =>
    "Cannot resolve '".toList ++ target ++ "' required from ".toList ++ requester.text
  | .circular chain => "Circular dependency detected: ".toList ++ chainText chain
  | .component file defect => defectMessage file defect
  | .template file message =>
    "Template compiler failed for ".toList ++ file.text ++ ": ".toList ++ message
  | .output file message => "Failed to write ".toList ++ file.text ++ ": ".toList ++ message
  | .format => "Formatting error: ".toList ++ formatFault
  | .tooDeep => "Files are nested too deeply".toList

/-- The causes behind a cause, each with its wording. -/
def causes : BuildError → List Text
  | .io fault => [fault.text]
  | .unreadable _ fault => [fault.text]
  | .format => [formatFault]
  | _ => []

/-- The message with the causes behind it, in a row. -/
def report (error : BuildError) : Text := Text.join ": ".toList (error.message :: error.causes)

end BuildError

end ScriptBundle
