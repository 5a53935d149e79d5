/-
# Why a file operation fails

The causes for which the file system refuses an operation, and the words that reports use for them.

## Main content

- `IoFault` lists the causes; `IoFault.text` is the wording of each.
-/
import ScriptBundle.Text.Basic

namespace ScriptBundle

/-- Why an operation on a file or a program failed. -/
inductive IoFault where
  /-- Nothing of this name exists. -/
  | notFound
  /-- The entry may not be used in this way. -/
  | denied
  /-- The entry is in use by the system. -/
  | busy
  /-- A directory is needed, and something else stands there. -/
  | notDirectory
  /-- A directory stands where a file is needed. -/
  | isDirectory
  /-- Something of this name stands there already. -/
  | alreadyThere
  /-- A directory to be taken away still has entries. -/
  | notEmpty
  /-- The system cannot make sense of an argument. -/
  | invalid
  /-- A name or a whole path is longer than the system allows. -/
  | nameTooLong
  /-- The path holds the character U+0000. -/
  | zeroInPath
  /-- An argument of a program holds the character U+0000. -/
  | zeroInArgument
  /-- A stream is not open, or not in this direction. -/
  | badHandle
  /-- Nobody reads from a pipe any more. -/
  | brokenPipe
  /-- The content of a file is no UTF-8 text. -/
  | notUtf8
  /-- A cause described by others. -/
  | described (text : Text)
  deriving DecidableEq

namespace IoFault

/-- What a cause is called. -/
def words : IoFault → Text
  | .notFound => "No such file or directory".toList
  | .denied => "Permission denied".toList
  | .busy => "Device or resource busy".toList
  | .notDirectory => "Not a directory".toList
  | .isDirectory => "Is a directory".toList
  | .alreadyThere => "File exists".toList
  | .notEmpty => "Directory not empty".toList
  | .invalid => "Invalid argument".toList
  | .nameTooLong => "File name too long".toList
  | .zeroInPath => "file name contained an unexpected NUL byte".toList
  | .zeroInArgument => "nul byte found in provided data".toList
  | .badHandle => "Bad file descriptor".toList
  | .brokenPipe => "Broken pipe".toList
  | .notUtf8 => "stream did not contain valid UTF-8".toList
  | .described text => text

/-- The number under which the system reports a cause. -/
def number? : IoFault → Option Nat
  | .notFound => some 2
  | .badHandle => some 9
  | .denied => some 13
  | .busy => some 16
  | .alreadyThere => some 17
  | .notDirectory => some 20
  | .isDirectory => some 21
  | .invalid => some 22
  | .brokenPipe => some 32
  | .nameTooLong => some 36
  | .notEmpty => some 39
  | _ => none

/-- The wording of a cause: what it is called, with the number under which the system reports it. -/
def text (fault : IoFault) : Text :=
  match fault.number? with
  | some number => fault.words ++ " (os error ".toList ++ Text.ofNat number ++ [')']
  | none => fault.words

end IoFault

end ScriptBundle
