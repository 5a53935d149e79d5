/-
# Redirections

Before a command is carried out, its handles are led to files and other streams; afterwards they lead
to where they led before.

## Main content

- `Action.redirect` carries out redirections; `Action.restoreHandles` takes them back.
- `Action.observe` and `Action.ensure` are for commands that end early.
-/
import ScriptBundle.Shell.Expansion

namespace ScriptBundle

namespace Shell

namespace Action

/-- Carries something out and says how it ended. -/
def observe {α : Type} (action : Action α) : Action (Except Escape α) := fun starter =>
  ExceptT.mk do
    let result ← (action starter).run
    return .ok result

/-- Carries something out, and something else at its end in any case. -/
def ensure {α : Type} (action : Action α) (cleanup : Action Unit) : Action α := do
  match ← observe action with
  | .ok a =>
    cleanup
    return a
  | .error escape =>
    cleanup
    throw escape

/-- Leads a handle to a stream, or nowhere. -/
def setHandle (handle : Nat) (stream? : Option Nat) : Action Unit :=
  modify fun session =>
    let others := session.handles.filter (·.1 ≠ handle)
    { session with handles := match stream? with
        | some n => (handle, n) :: others
        | none => others }

/-- Lets handles lead to where they led before. -/
def restoreHandles (changed : List Nat) (before : Handles) : Action Unit := do
  for handle in changed do setHandle handle (before.lookup handle)

/-- Opens a pipe that holds a text. -/
def openPipe (content : Text) : Action Nat :=
  inWorld fun w => w.addStream { channel := .pipe content }

/-- Why a file cannot be opened. -/
def openFault (missing : String) : IoFault → Text
  | .notFound | .notDirectory => missing.toList
  | fault => fault.words

/-- Opens a file, or says why it cannot be opened. -/
def openFile (act missing : String) (target : Text)
    (f : World → Except IoFault (Nat × World)) : Action Nat := do
  let session ← get
  match f session.world with
  | .ok (n, world) =>
    set { session with world }
    return n
  | .error fault =>
    refuse ("cannot ".toList ++ act.toList ++ [' '] ++ target ++ ": ".toList ++
      openFault missing fault)

/-- Opens the file of a redirection. -/
def openTarget (sign : String) (target : Text) : Action Nat := do
  let path := Task.pathOf target
  match sign with
  | "<" => openFile "open" "No such file" target fun w => w.openForReading path
  | "<>" =>
    openFile "create" "Directory nonexistent" target fun w => w.openForWriting path false false true
  | ">>" =>
    openFile "create" "Directory nonexistent" target fun w => w.openForWriting path false true false
  | sign =>
    if sign = ">" && (← isOn 'C') && (← files).isFile path then
      refuse ("cannot create ".toList ++ target ++ ": File exists".toList)
    openFile "create" "Directory nonexistent" target fun w => w.openForWriting path true false false

/-- Replaces the words of redirections by the texts that they stand for. -/
def expandTargets (take : Taker) (redirections : List Redirection) : Action (List (Nat × Text × Text)) :=
  redirections.mapM fun redirection => do
    match redirection with
    | .file handle sign target => return (handle, sign, ← expandText take target)
    | .document handle number => return (handle, "<<".toList, Text.ofNat number)

/-- Carries out a redirection. -/
def redirectOne (take : Taker) (handle : Nat) (sign target : Text) : Action Unit := do
  match String.ofList sign with
  | "<<" =>
    let document := ((← get).documents.lookup (Numeral.value 10 target)).getD []
    setHandle handle (some (← openPipe (← expandDocument take document)))
  | ">&" | "<&" =>
    match target with
    | ['-'] => setHandle handle none
    | [c] =>
      if !c.isDigit then refuse "Syntax error: Bad fd number".toList
      match (← get).handles.lookup (c.toNat - '0'.toNat) with
      | some n => setHandle handle (some n)
      | none => refuse (c :: ": Bad file descriptor".toList)
    | _ => refuse "Syntax error: Bad fd number".toList
  | sign => setHandle handle (some (← openTarget sign target))

/-- Carries out redirections.  If one of them fails, those before it are taken back, and the answer is
no. -/
def redirect (take : Taker) (targets : List (Nat × Text × Text)) : Action Bool := do
  let before := (← get).handles
  match ← observe (targets.forM fun (handle, sign, target) => redirectOne take handle sign target) with
  | .ok _ => return true
  | .error .fault =>
    restoreHandles (targets.map (·.1)) before
    return false
  | .error .leave => throw .leave

end Action

end Shell

end ScriptBundle
