/-
# Following calls

Of the spans of a file, plain text is copied and leaves the build as it is.  So where all calls are
followed, linking the spans is following the calls one after the other, and the text of the module is
that of the spans.  Following a call to a module that is complete takes no depth.

## Main content

- `Linker.followCall` is what is done with one call; `Linker.linkSpans_eq`: what is done with spans
  all of whose calls are followed.
- `Linker.reachKnowing` reaches files with a bound on how deeply they are read, and complete modules
  without one; `Linker.below_reachKnowing`: it agrees with reaching files with this bound.
-/
import ScriptBundle.Proofs.Build.Depth
import ScriptBundle.Proofs.Require.Options

namespace ScriptBundle

namespace Linker

open Build

variable {l : Linker} {file path : Path} {reach : Path → Build ModuleNumber} {s : BuildState}

/-! ## Calls -/

/-- Follows a call.  What is recorded is its target with the number of the module, unless the target
names a vendor library. -/
def followCall (l : Linker) (reach : Path → Build ModuleNumber) (file : Path) (call : Call) :
    Build (Option (Text × ModuleNumber)) := do
  match ← Build.ofExcept (l.destination (← get) file call.target) with
  | .library _ => return none
  | .file path => return some (call.target, ← reach path)

/-- A call that is linked is followed. -/
theorem linkPart_follow (call : Call) :
    l.linkPart reach file (.follow call) =
      (fun entry => ⟨call.text, entry⟩) <$> l.followCall reach file call := by
  simp only [linkPart, followCall, map_bind]
  congr
  funext state
  congr
  funext destination
  cases destination with
  | library target => simp
  | file path => simp

/-- A call to a complete module, at the path as it is written, gives the number of the module. -/
theorem gives_followCall {call : Call} {found : Module}
    (hknown : Gives (reach (Lookup.targetPath file call.target).folded) s found.number s)
    (hfound : s.table.find? (Lookup.targetPath file call.target).folded = some found) :
    Gives (l.followCall reach file call) s (some (call.target, found.number)) s := by
  have hdest : l.destination s file call.target =
      .ok (.file (Lookup.targetPath file call.target).folded) :=
    if_pos (Option.isSome_of_eq_some hfound)
  refine gives_bind.2 ⟨s, s, gives_get.2 ⟨rfl, rfl⟩, ?_⟩
  refine gives_bind.2 ⟨_, s, gives_ofExcept.2 ⟨hdest, rfl⟩, ?_⟩
  exact gives_bind.2 ⟨_, s, hknown, gives_pure.2 ⟨rfl, rfl⟩⟩

/-- What the first element gives, if it gives anything, comes in front of what the others give. -/
theorem filterMap_cons_toList {α β : Type} (f : α → Option β) (a : α) (as : List α) :
    (a :: as).filterMap f = (f a).toList ++ as.filterMap f := by
  cases h : f a <;> simp [h]

/-- Where all calls are followed, linking spans is following their calls: the texts are those of the
spans, and the calls alone are recorded. -/
theorem mapM_linkPart_eq (l : Linker) (reach : Path → Build ModuleNumber) (file : Path)
    (spans : List Span) :
    (fun linked => (linked.flatMap Linked.text, linked.filterMap Linked.dependency)) <$>
        (spans.map Part.ofSpan).mapM (l.linkPart reach file) =
      (fun entries => (spans.flatMap Span.text, entries.filterMap id)) <$>
        (spans.filterMap Span.call?).mapM (l.followCall reach file) := by
  induction spans with
  | nil => simp
  | cons span spans ih =>
    rw [List.map_cons, List.mapM_cons]
    cases span with
    | plain text =>
      have hbehind := congrArg (fun step => (fun linked => (text ++ linked.1, linked.2)) <$> step) ih
      simp only [Functor.map_map] at hbehind
      rw [List.filterMap_cons_none (show Span.call? (.plain text) = none from rfl)]
      simpa [Part.ofSpan, linkPart, Span.text] using hbehind
    | require call =>
      have hbehind (entry : Option (Text × ModuleNumber)) := congrArg
        (fun step => (fun linked => (call.text ++ linked.1, entry.toList ++ linked.2)) <$> step) ih
      simp only [Functor.map_map] at hbehind
      rw [List.filterMap_cons_some (show Span.call? (.require call) = some call from rfl),
        List.mapM_cons, show Part.ofSpan (.require call) = .follow call from rfl, linkPart_follow]
      simp only [bind_map_left, map_bind, ← map_eq_pure_bind, Functor.map_map, List.flatMap_cons,
        filterMap_cons_toList, id_eq, Span.text, hbehind]

/-- If all calls are followed, linking spans is following their calls. -/
theorem linkSpans_eq {spans : List Span}
    (h : Part.ofSpans l.compiler.isSome spans = spans.map Part.ofSpan) :
    l.linkSpans reach file spans =
      (fun entries => (spans.flatMap Span.text, Dependencies.ofList (entries.filterMap id))) <$>
        (spans.filterMap Span.call?).mapM (l.followCall reach file) := by
  have hlinked := congrArg
    (fun step => (fun linked => (linked.1, Dependencies.ofList linked.2)) <$> step)
    (mapM_linkPart_eq l reach file spans)
  simp only [Functor.map_map] at hlinked
  rw [linkSpans, h, ← hlinked, map_eq_pure_bind]

/-! ## Complete modules -/

/-- Reaches a file with at most `depth` files inside each other, and complete modules at any depth. -/
def reachKnowing (l : Linker) : Nat → Path → Build ModuleNumber
  | 0, path => do
    match (← get).table.find? path with
    | some found => return found.number
    | none => throw .tooDeep
  | depth + 1, path => l.reachStep (l.reachKnowing depth) path

/-- Complete modules are reached at any depth. -/
theorem gives_reachKnowing {found : Module} (h : s.table.find? path = some found) (depth : Nat) :
    Gives (l.reachKnowing depth path) s found.number s := by
  cases depth with
  | zero =>
    refine gives_bind.2 ⟨s, s, gives_get.2 ⟨rfl, rfl⟩, ?_⟩
    rw [h]
    exact gives_pure.2 ⟨rfl, rfl⟩
  | succ depth =>
    refine gives_bind.2 ⟨s, s, gives_get.2 ⟨rfl, rfl⟩, ?_⟩
    rw [h]
    exact gives_pure.2 ⟨rfl, rfl⟩

/-- Reaching a file within a depth is below reaching it with complete modules at any depth. -/
theorem below_reachKnowing (depth : Nat) (path : Path) :
    Below (l.reachWithin depth path) (l.reachKnowing depth path) := by
  induction depth generalizing path with
  | zero => exact fun s hs => absurd (fails_throw.2 rfl) hs
  | succ depth ih => exact below_reachStep ih path

end Linker

end ScriptBundle
