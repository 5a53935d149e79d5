/-
# Streams

Running programs share the files and the streams.  A stream is connected with a file, with a pipe
that hands text over, or with nothing; several handles may belong to one stream, and then they share
its position.

Programs work byte by byte, so all texts that pass through streams hold one character for each byte.

## Main content

- `World` is what running programs share.
- `World.write`, `World.readAll` and `World.readLine` move text through a stream.
-/
import ScriptBundle.FileSystem.Change

namespace ScriptBundle

/-- What a stream is connected with. -/
inductive Channel where
  /-- A file, from a position on.  What is appended goes to the end of the file. -/
  | file (place : Location) (position : Nat) (appending : Bool)
  /-- A pipe with the text that was written to it and not read yet. -/
  | pipe (content : Text)
  /-- The device that is always empty and keeps nothing. -/
  | nullDevice
  /-- A directory, which can be opened but not read. -/
  | directory

/-- An open stream. -/
structure Stream where
  /-- What it is connected with. -/
  channel : Channel
  /-- Whether it can be read. -/
  reads : Bool := true
  /-- Whether it can be written to. -/
  writes : Bool := true

/-- What running programs share. -/
structure World where
  /-- The files. -/
  files : FileSystem
  /-- The streams. -/
  streams : Array Stream := #[]

/-- The streams that a program calls by numbers: its handles, each with a stream. -/
abbrev Handles := List (Nat × Nat)

namespace World

/-- Opens a stream. -/
def addStream (w : World) (stream : Stream) : Nat × World :=
  (w.streams.size, { w with streams := w.streams.push stream })

/-- Connects a stream anew. -/
def setChannel (w : World) (n : Nat) (channel : Channel) : World :=
  { w with streams := w.streams.modify n fun stream => { stream with channel } }

/-- Whether a stream can be written to. -/
def accepts (w : World) (n : Nat) : Bool :=
  match w.streams[n]? with
  | some stream => stream.writes
  | none => false

/-- Writes to a stream. -/
def write (w : World) (n : Nat) (s : Text) : World :=
  match w.streams[n]? with
  | some ⟨.pipe content, _, true⟩ => w.setChannel n (.pipe (content ++ s))
  | some ⟨.file place position appending, _, true⟩ =>
    let start := if appending then (w.files.bytesAt place).length else position
    let w := { w with files := w.files.writeAt place start (Utf8.gather s) }
    w.setChannel n (.file place (start + s.length) appending)
  | _ => w

/-- What is left to read from a stream. -/
def unread (w : World) (n : Nat) : Except IoFault Text :=
  match w.streams[n]? with
  | some ⟨.pipe content, true, _⟩ => .ok content
  | some ⟨.file place position _, true, _⟩ =>
    .ok (Utf8.spread ((w.files.bytesAt place).drop position))
  | some ⟨.nullDevice, _, _⟩ => .ok []
  | some ⟨.directory, _, _⟩ => .error .isDirectory
  | _ => .error .badHandle

/-- Goes forward in a stream. -/
def advance (w : World) (n size : Nat) : World :=
  match w.streams[n]? with
  | some ⟨.pipe content, _, _⟩ => w.setChannel n (.pipe (content.drop size))
  | some ⟨.file place position appending, _, _⟩ =>
    w.setChannel n (.file place (position + size) appending)
  | _ => w

/-- Reads all that is left in a stream. -/
def readAll (w : World) (n : Nat) : Except IoFault Text × World :=
  match w.unread n with
  | .ok s => (.ok s, w.advance n s.length)
  | .error fault => (.error fault, w)

/-- Reads a line of a stream, with the newline that ends it. -/
def readLine (w : World) (n : Nat) : Except IoFault Text × World :=
  match w.unread n with
  | .ok s =>
    let line := s.takeWhile (· ≠ '\n')
    let line := line ++ (s.drop line.length).take 1
    (.ok line, w.advance n line.length)
  | .error fault => (.error fault, w)

/-- Leaves text that was read too early to the next reader of a stream.  Pipes do not take it
back. -/
def giveBack (w : World) (n size : Nat) : World :=
  match w.streams[n]? with
  | some ⟨.file place position appending, _, _⟩ =>
    w.setChannel n (.file place (position - size) appending)
  | _ => w

/-- Opens a file for reading. -/
def openForReading (w : World) (p : Path) : Except IoFault (Nat × World) := do
  let place ← w.files.locate p
  match w.files.node? place with
  | some (.file _) => .ok (w.addStream { channel := .file place 0 false, writes := false })
  | some .directory => .ok (w.addStream { channel := .directory, writes := false })
  | some .nullDevice => .ok (w.addStream { channel := .nullDevice })
  | none => .error .notFound

/-- Opens a file for writing. -/
def openForWriting (w : World) (p : Path) (emptied appending reads : Bool) :
    Except IoFault (Nat × World) := do
  let (place, files) ← w.files.openForWriting p emptied
  let channel := match files.node? place with
    | some .nullDevice => .nullDevice
    | _ => .file place 0 appending
  .ok ({ w with files }.addStream { channel, reads })

end World

end ScriptBundle
