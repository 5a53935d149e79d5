/-
# What failing builds keep

A step of a build that fails leaves a state behind as well.  This state too has all that the earlier
one has: no module and no style is lost, the same files are being read, and the files only change
by the compiler.

## Main content

- `Linker.Frames` says of a relation between two states that it holds across everything that steps
  of a build are made of; `Linker.frames_grows` and `Linker.frames_consistent` are two of them.
- `Build.Keeps` says that a step relates every state that it begins in to the one that it leaves,
  however it ends; there is one lemma for each way of putting steps together.
- `Linker.Frames.reachWithin`: reaching a file keeps such a relation, also when it fails.
- `Linker.becomes_graph`: a build, also one that fails, only changes the files by the compiler.
-/
import ScriptBundle.Proofs.Build.Growth

namespace ScriptBundle

/-! ## Relations that hold across builds -/

/-- A relation between an earlier state and a later one that holds across all that steps of a build
are made of: a module or styles are added, the compiler runs, or a file is read from when it is
opened until it is closed. -/
structure Linker.Frames (l : Linker) (R : BuildState → BuildState → Prop) : Prop where
  /-- It holds where nothing happens. -/
  refl (s : BuildState) : R s s
  /-- What holds twice in a row holds across both. -/
  trans {s t u : BuildState} : R s t → R t u → R s u
  /-- It holds when a module is added. -/
  addModule (s : BuildState) (path : Path) (text : Text) (dependencies : Dependencies) :
    R s { s with table := s.table.add path text dependencies }
  /-- It holds when styles are added. -/
  addStyles (s : BuildState) (styles : Stylesheet) : R s { s with styles := s.styles ++ styles }
  /-- It holds when the compiler runs. -/
  compile {s : BuildState} {files : FileSystem} : l.Compiles s.files files → R s { s with files }
  /-- It holds across the time in which a file is read, if it holds inside. -/
  during {s t : BuildState} (path : Path) : R { s with inProgress := s.inProgress ++ [path] } t →
    R s { t with inProgress := t.inProgress.dropLast }

namespace Build

variable {α β : Type} {R : BuildState → BuildState → Prop} {l : Linker}

/-- A step relates every state that it begins in to the one that it leaves, also when it fails. -/
def Keeps (R : BuildState → BuildState → Prop) (step : Build α) : Prop :=
  ∀ s : BuildState, R s (step.run.run s).2

/-- A step grows every state that it begins in, also when it fails. -/
def OnlyGrows (l : Linker) (step : Build α) : Prop :=
  ∀ s : BuildState, s.Grows l (step.run.run s).2

namespace Keeps

/-- A step that leaves the state as it is. -/
theorem of_state_eq {step : Build α} (h : l.Frames R) (heq : ∀ s, (step.run.run s).2 = s) :
    Keeps R step := by
  intro s
  rw [heq s]
  exact h.refl s

/-- A value by itself changes nothing. -/
theorem pure (h : l.Frames R) (a : α) : Keeps R (Pure.pure a : Build α) :=
  .of_state_eq h fun _ => rfl

/-- Looking at the state changes nothing. -/
theorem get (h : l.Frames R) : Keeps R (MonadState.get : Build BuildState) :=
  .of_state_eq h fun _ => rfl

/-- A step that throws changes nothing. -/
theorem throw (h : l.Frames R) (e : BuildError) : Keeps R (MonadExcept.throw e : Build α) :=
  .of_state_eq h fun _ => rfl

/-- A step that does not look at the state changes nothing. -/
theorem ofExcept (h : l.Frames R) (result : Except BuildError α) :
    Keeps R (Build.ofExcept result) :=
  .of_state_eq h fun _ => rfl

/-- Reading a file changes nothing. -/
theorem readText (h : l.Frames R) (file : Path) : Keeps R (Build.readText file) :=
  .of_state_eq h fun _ => rfl

/-- Adding a module. -/
theorem addModule (h : l.Frames R) (path : Path) (text : Text) (dependencies : Dependencies) :
    Keeps R (Build.addModule path text dependencies) := fun s =>
  h.addModule s path text dependencies

/-- Adding styles. -/
theorem addStyles (h : l.Frames R) (file : Path) (styles : List Text) :
    Keeps R (Build.addStyles file styles) := fun s => h.addStyles s _

/-- Running the compiler. -/
theorem compile {compiler : Compiler} (h : l.Frames R) (hcompiler : l.compiler = some compiler)
    (file : Path) (markup : Text) : Keeps R (Build.compile compiler file markup) := fun _ =>
  h.compile ⟨compiler, markup, hcompiler, rfl⟩

/-- Two steps in a row keep what both keep. -/
theorem bind {step : Build α} {next : α → Build β} (h : l.Frames R) (hstep : Keeps R step)
    (hnext : ∀ a, Keeps R (next a)) : Keeps R (step >>= next) := by
  intro s
  have hfirst := hstep s
  rw [run_bind]
  rcases hrun : step.run.run s with ⟨result, t⟩
  rw [hrun] at hfirst
  cases result with
  | error e => exact hfirst
  | ok a => exact h.trans hfirst (hnext a t)

/-- A step that is done while a file is being read. -/
theorem during {step : Build α} (h : l.Frames R) (hstep : Keeps R step) (path : Path) :
    Keeps R (Build.during path step) := by
  intro s
  rw [run_during]
  exact h.during path (hstep _)

/-- Steps for the elements of a list keep what all of them keep. -/
theorem mapM {f : α → Build β} (h : l.Frames R) (hstep : ∀ a, Keeps R (f a)) (as : List α) :
    Keeps R (as.mapM f) := by
  induction as with
  | nil =>
    rw [List.mapM_nil]
    exact .pure h _
  | cons a as ih =>
    rw [List.mapM_cons]
    exact .bind h (hstep a) fun b => .bind h ih fun bs => .pure h _

end Keeps

end Build

/-! ## The steps of a linker -/

namespace Linker

open Build

variable {l : Linker} {R : BuildState → BuildState → Prop} {reach : Path → Build ModuleNumber}

/-- Compiling a template in a file of its own. -/
theorem Frames.inlineText (h : l.Frames R) (file : Path) (target : Text) :
    Keeps R (l.inlineText file target) := by
  unfold Linker.inlineText
  split
  · exact .pure h _
  · next hcompiler =>
    exact .bind h (.readText h _) fun markup =>
      .bind h (.compile h hcompiler _ markup) fun _ => .pure h _

/-- Linking a part keeps what reaching files keeps. -/
theorem Frames.linkPart (h : l.Frames R) (hreach : ∀ path, Keeps R (reach path)) (file : Path)
    (part : Part) : Keeps R (l.linkPart reach file part) := by
  cases part with
  | copy text => exact .pure h _
  | inline target => exact .bind h (h.inlineText file target) fun _ => .pure h _
  | follow call =>
    refine .bind h (.get h) fun s => .bind h (.ofExcept h _) fun destination => ?_
    cases destination with
    | library target => exact .pure h _
    | file path => exact .bind h (hreach path) fun _ => .pure h _

/-- Linking spans keeps what reaching files keeps. -/
theorem Frames.linkSpans (h : l.Frames R) (hreach : ∀ path, Keeps R (reach path)) (file : Path)
    (spans : List Span) : Keeps R (l.linkSpans reach file spans) :=
  .bind h (.mapM h (h.linkPart hreach file) _) fun _ => .pure h _

/-- Making a template a module. -/
theorem Frames.addTemplate (h : l.Frames R) (component : Path) (markup : Text) :
    Keeps R (addTemplate component markup) :=
  .bind h (.addModule h _ _ _) fun _ => .pure h _

/-- Seeing to a template. -/
theorem Frames.fillSlot (h : l.Frames R) (file : Path) (template : Option Text) :
    Keeps R (l.fillSlot file template) := by
  unfold Linker.fillSlot
  split
  · exact .pure h _
  · split
    · exact .bind h (h.addTemplate _ _) fun _ => .pure h _
    · next hcompiler => exact .bind h (.compile h hcompiler _ _) fun _ => .pure h _

/-- Linking a text keeps what reaching files keeps. -/
theorem Frames.linkText (h : l.Frames R) (hreach : ∀ path, Keeps R (reach path)) (file : Path)
    (text : Text) : Keeps R (l.linkText reach file text) :=
  .bind h (.addStyles h _ _) fun _ => .bind h (.ofExcept h _) fun _ =>
    .bind h (h.fillSlot file _) fun _ => h.linkSpans hreach file _

/-- Reaching a file, however deeply files are read inside each other. -/
theorem Frames.reachWithin (h : l.Frames R) (depth : Nat) (path : Path) :
    Keeps R (l.reachWithin depth path) := by
  induction depth generalizing path with
  | zero => exact .throw h _
  | succ depth ih =>
    have hread : Keeps R (Build.readText path >>= fun text =>
        Build.during path (l.linkText (l.reachWithin depth) path text) >>= fun linked =>
          Build.addModule path linked.1 linked.2) :=
      .bind h (.readText h path) fun text =>
        .bind h (.during h (h.linkText ih path text) path) fun _ => .addModule h _ _ _
    refine .bind h (.get h) fun s => ?_
    cases s.table.find? path with
    | some found => exact .pure h _
    | none =>
      cases s.inProgress.any (·.same path) with
      | true => exact .bind h (.throw h _) fun _ => hread
      | false => exact hread

/-! ## Two relations -/

/-- States only grow. -/
theorem frames_grows (l : Linker) : l.Frames (BuildState.Grows l) where
  refl := .refl l
  trans := .trans
  addModule _ _ _ _ := ⟨List.prefix_append _ _, List.prefix_refl _, rfl, .refl⟩
  addStyles _ _ := ⟨List.prefix_refl _, List.prefix_append _ _, rfl, .refl⟩
  compile h := ⟨List.prefix_refl _, List.prefix_refl _, rfl, .single h⟩
  during path h := by
    refine ⟨h.modules, h.styles, ?_, h.files⟩
    show List.dropLast _ = _
    rw [h.inProgress]
    exact List.dropLast_concat

/-- Consistent tables stay consistent. -/
theorem frames_consistent (l : Linker) :
    l.Frames fun s t => s.table.Consistent → t.table.Consistent where
  refl _ := id
  trans h h' hs := h' (h hs)
  addModule _ path text dependencies hs := hs.add path text dependencies
  addStyles _ _ := id
  compile _ := id
  during _ h := h

/-- Reaching a file only grows the state. -/
theorem onlyGrows_reach (l : Linker) (path : Path) : OnlyGrows l (l.reach path) :=
  l.frames_grows.reachWithin depthBound path

/-- A build only changes the files by the compiler, also when it fails. -/
theorem becomes_graph (l : Linker) (files : FileSystem) (root : Path) :
    l.Becomes files (l.graph files root).2 := by
  cases hroot : l.lookup.rootFile files root with
  | error e =>
    rw [graph, hroot]
    exact .refl
  | ok path =>
    have hfiles := (l.onlyGrows_reach path { files }).files
    simp only [graph, hroot]
    rcases hrun : (l.reach path).run.run { files } with ⟨result, state⟩
    rw [hrun] at hfiles
    exact hfiles

end Linker

end ScriptBundle
