/-
# Builds as derivations

The rules by which a build goes from one state to the next, without a bound on how deeply files are
read inside each other.  A derivation shows a build that ends well: which files it enters, in which
order and in which states, and what it makes of every part of their texts.

## Main content

- `Linker.Opens` is what happens to a file before its parts are linked: it is read, its styles are
  added, and its template is seen to.
- `Linker.Links` goes through the parts of a file; a require of a new file opens that file, links
  its parts and closes it.
- `Linker.Enters` lists the files that a build enters, each with the state at that moment.
- `Linker.reaches_of_gives` and `Linker.completes_of_graph`: every build that ends well has a
  derivation.
-/
import Mathlib.Logic.Relation
import ScriptBundle.Proofs.Build.Step

namespace ScriptBundle

namespace BuildState

/-- A file is new in a state: it is neither complete nor being read. -/
def IsNew (s : BuildState) (path : Path) : Prop :=
  s.table.find? path = none ∧ s.inProgress.any (·.same path) = false

/-- The module that the file read last becomes when its parts are linked. -/
def moduleOf (s : BuildState) (file : Path) (linked : List Linker.Linked) : Module where
  number := s.table.nextNumber
  path := file
  text := linked.flatMap Linker.Linked.text
  dependencies := Dependencies.ofList (linked.filterMap Linker.Linked.dependency)

/-- The state in which the file read last is complete. -/
def close (s : BuildState) (file : Path) (linked : List Linker.Linked) : BuildState :=
  { s with
    inProgress := s.inProgress.dropLast
    table := s.table.add file (s.moduleOf file linked).text (s.moduleOf file linked).dependencies }

/-- Closing a file adds its module. -/
theorem modules_close (s : BuildState) (file : Path) (linked : List Linker.Linked) :
    (s.close file linked).table.modules = s.table.modules ++ [s.moduleOf file linked] := rfl

end BuildState

namespace Linker

variable {l : Linker}

/-! ## Files that compilers change -/

/-- One run of the compiler makes other files of some files. -/
def Compiles (l : Linker) (before after : FileSystem) : Prop :=
  ∃ compiler markup, l.compiler = some compiler ∧ after = ((compiler markup).run.run before).2

/-- What the files can become in the course of a build: what any number of compiler runs make of
them. -/
def Becomes (l : Linker) : FileSystem → FileSystem → Prop := Relation.ReflTransGen l.Compiles

/-- The compiler, if there is one, leaves these files as they are. -/
def KeepsFiles (l : Linker) (files : FileSystem) : Prop :=
  ∀ after, l.Compiles files after → after = files

/-- Files that the compiler keeps stay as they are. -/
theorem KeepsFiles.eq_of_becomes {files after : FileSystem} (h : l.KeepsFiles files)
    (hafter : l.Becomes files after) : after = files := by
  induction hafter with
  | refl => rfl
  | tail _ hstep ih =>
    subst ih
    exact h _ hstep

/-- Without a compiler all files stay as they are. -/
theorem keepsFiles_of_compiler_eq_none (h : l.compiler = none) (files : FileSystem) :
    l.KeepsFiles files := by
  rintro after ⟨compiler, markup, hcompiler, -⟩
  rw [h] at hcompiler
  cases hcompiler

/-! ## Opening a file -/

/-- What takes the place of the slot of a file: nothing where there is no template, a reference to
the module of the template, or the compiled template. -/
inductive Fills (l : Linker) (files : FileSystem) (file : Path) : Option Text → List Piece → Prop
  | bare : Fills l files file none []
  | reference {markup : Text} (hcompiler : l.compiler = none) :
    Fills l files file (some markup) [.line (Source.templateReference file)]
  | compiled {markup : Text} {compiler : Compiler} {functions : RenderFunctions}
    (hcompiler : l.compiler = some compiler)
    (hrun : ((compiler markup).run.run files).1 = .ok functions) :
    Fills l files file (some markup) [.verbatim functions.optionText, .verbatim [',']]

/-- The files after a template is seen to. -/
def filesAfter (l : Linker) (files : FileSystem) : Option Text → FileSystem
  | none => files
  | some markup =>
    match l.compiler with
    | none => files
    | some compiler => ((compiler markup).run.run files).2

/-- The table after a template is seen to. -/
def tableAfter (l : Linker) (table : ModuleTable) (file : Path) : Option Text → ModuleTable
  | none => table
  | some markup =>
    match l.compiler with
    | none => table.add (Source.templatePath file) (Literal.exportText markup) []
    | some _ => table

/-- What a file has when it is read: its text, what the text brings into the build, and what fills
the slot. -/
structure Reads (l : Linker) (files : FileSystem) (file : Path) (text : Text) (source : Source)
    (filling : List Piece) : Prop where
  /-- The text stands in the file. -/
  text_eq : files.readText file = .ok text
  /-- The text is read by the kind of the file. -/
  source_eq : (Source.read file text).source = .ok source
  /-- The slot is filled. -/
  fills : l.Fills files file source.template filling

/-- The spans of a script are those of its text. -/
theorem Reads.spans_of_script {l : Linker} {files : FileSystem} {file : Path} {text : Text}
    {source : Source} {filling : List Piece} (h : l.Reads files file text source filling)
    (hkind : FileKind.ofPath file = .script) : source.spans filling = Span.ofText text := by
  have hsource := h.source_eq
  have hfills := h.fills
  rw [Source.read, hkind] at hsource
  obtain rfl := Except.ok.inj hsource
  -- a script has no slot
  cases hfills
  rw [Source.spans, List.append_nil, List.append_nil, Span.ofText]

/-- The state in which the parts of a file are linked first. -/
def opened (l : Linker) (s : BuildState) (file : Path) (text : Text) (template : Option Text) :
    BuildState where
  files := l.filesAfter s.files template
  table := l.tableAfter s.table file template
  inProgress := s.inProgress ++ [file]
  styles := s.styles ++ Stylesheet.ofComponent file (Source.read file text).styles

/-- Opening a file gives its spans. -/
inductive Opens (l : Linker) (s : BuildState) (file : Path) : List Span → BuildState → Prop
  | intro {text : Text} {source : Source} {filling : List Piece}
    (hreads : l.Reads s.files file text source filling) :
    Opens l s file (source.spans filling) (l.opened s file text source.template)

/-! ## Linking the parts of a file -/

/-- The parts of the spans of a file. -/
def partsOf (l : Linker) (spans : List Span) : List Part := Part.ofSpans l.compiler.isSome spans

/-- A part that can be linked without entering another file. -/
inductive Settles (l : Linker) (s : BuildState) (file : Path) : Part → Linked → BuildState → Prop
  | copy {text : Text} : Settles l s file (.copy text) { text } s
  | inline {target text : Text} {s' : BuildState}
    (htext : Build.Gives (l.inlineText file target) s text s') :
    Settles l s file (.inline target) { text } s'
  | library {call : Call} {target : Text}
    (hdest : l.destination s file call.target = .ok (.library target)) :
    Settles l s file (.follow call) { text := call.text } s
  | complete {call : Call} {path : Path} {found : Module}
    (hdest : l.destination s file call.target = .ok (.file path))
    (hfound : s.table.find? path = some found) :
    Settles l s file (.follow call) ⟨call.text, some (call.target, found.number)⟩ s

/-- Linking the parts of a file, one after the other, from a state to a state. -/
inductive Links (l : Linker) :
    BuildState → Path → List Part → List Linked → BuildState → Prop
  | nil {s : BuildState} {file : Path} : Links l s file [] [] s
  | settle {s s₁ s' : BuildState} {file : Path} {part : Part} {parts : List Part} {link : Linked}
    {linked : List Linked} (hpart : l.Settles s file part link s₁)
    (hparts : Links l s₁ file parts linked s') :
    Links l s file (part :: parts) (link :: linked) s'
  | enter {s s₁ s₂ s' : BuildState} {file path : Path} {call : Call} {spans : List Span}
    {parts : List Part} {inner linked : List Linked}
    (hdest : l.destination s file call.target = .ok (.file path)) (hnew : s.IsNew path)
    (hopens : l.Opens s path spans s₁) (hinner : Links l s₁ path (l.partsOf spans) inner s₂)
    (hparts : Links l (s₂.close path inner) file parts linked s') :
    Links l s file (.follow call :: parts)
      (⟨call.text, some (call.target, s₂.table.nextNumber)⟩ :: linked) s'

/-- Visiting a file: it is opened and its parts are linked.  What is left to do is to close it. -/
def Visits (l : Linker) (s : BuildState) (file : Path) (spans : List Span) (linked : List Linked)
    (s' : BuildState) : Prop :=
  ∃ s₁, l.Opens s file spans s₁ ∧ l.Links s₁ file (l.partsOf spans) linked s'

/-- A file is taken from the table, or visited and completed. -/
inductive Reaches (l : Linker) (s : BuildState) (path : Path) :
    ModuleNumber → BuildState → Prop
  | complete {found : Module} (hfound : s.table.find? path = some found) :
    Reaches l s path found.number s
  | enter {s' : BuildState} {spans : List Span} {linked : List Linked} (hnew : s.IsNew path)
    (hvisits : l.Visits s path spans linked s') :
    Reaches l s path s'.table.nextNumber (s'.close path linked)

/-- A build from a root ends well in a state: it visits the file at the root and closes it. -/
def Completes (l : Linker) (files : FileSystem) (root : Path) (final : BuildState) : Prop :=
  ∃ path spans linked s', l.lookup.rootFile files root = .ok path ∧
    l.Visits { files } path spans linked s' ∧ final = s'.close path linked

/-! ## Entering files -/

/-- The files that a build from a root enters, each with the state in which it is entered.  A file
is entered from another one when the parts in front of a call are linked and the call leads to a new
file. -/
inductive Enters (l : Linker) (files : FileSystem) (root : Path) : BuildState → Path → Prop
  | root {path : Path} (hroot : l.lookup.rootFile files root = .ok path) :
    Enters l files root { files } path
  | follow {s s₁ s₂ : BuildState} {file path : Path} {call : Call} {spans : List Span}
    {front back : List Part} {linked : List Linked} (hfile : Enters l files root s file)
    (hopens : l.Opens s file spans s₁) (hparts : l.partsOf spans = front ++ .follow call :: back)
    (hfront : l.Links s₁ file front linked s₂)
    (hdest : l.destination s₂ file call.target = .ok (.file path)) (hnew : s₂.IsNew path) :
    Enters l files root s₂ path

/-! ## Builds have derivations -/

section Soundness

open Build

variable {s s' : BuildState}

/-- Filling a slot is seeing to the template. -/
theorem gives_fillSlot {file : Path} {template : Option Text} {filling : List Piece}
    (h : Gives (l.fillSlot file template) s filling s') :
    l.Fills s.files file template filling ∧
      s' = { s with
        files := l.filesAfter s.files template
        table := l.tableAfter s.table file template } := by
  cases template with
  | none =>
    obtain ⟨rfl, rfl⟩ := gives_pure.1 h
    exact ⟨.bare, rfl⟩
  | some markup =>
    cases hcompiler : l.compiler with
    | none =>
      simp only [fillSlot, hcompiler] at h
      -- the markup becomes a module, whose number is not used: the slot requires it by its path
      obtain ⟨_, t, hdiscard, hpure⟩ := gives_bind.1 h
      obtain ⟨number, hadd, -⟩ := gives_map.1 hdiscard
      obtain ⟨-, rfl⟩ := gives_addModule.1 hadd
      obtain ⟨rfl, rfl⟩ := gives_pure.1 hpure
      refine ⟨.reference hcompiler, ?_⟩
      simp only [filesAfter, tableAfter, hcompiler]
    | some compiler =>
      simp only [fillSlot, hcompiler] at h
      obtain ⟨functions, t, hcompile, hpure⟩ := gives_bind.1 h
      obtain ⟨hrun, rfl⟩ := gives_compile.1 hcompile
      obtain ⟨rfl, rfl⟩ := gives_pure.1 hpure
      refine ⟨.compiled hcompiler hrun, ?_⟩
      simp only [filesAfter, tableAfter, hcompiler]

/-- Linking a text is opening the file and linking its parts. -/
theorem gives_linkText {reach : Path → Build ModuleNumber} {file : Path} {text text' : Text}
    {dependencies : Dependencies} (hread : s.files.readText file = .ok text)
    (h : Gives (l.linkText reach file text) { s with inProgress := s.inProgress ++ [file] }
      (text', dependencies) s') :
    ∃ spans s₁ linked, l.Opens s file spans s₁ ∧
      Gives ((l.partsOf spans).mapM (l.linkPart reach file)) s₁ linked s' ∧
      text' = linked.flatMap Linked.text ∧
      dependencies = Dependencies.ofList (linked.filterMap Linked.dependency) := by
  obtain ⟨_, t, hstyles, hbehind⟩ := gives_bind.1 h
  obtain ⟨-, rfl⟩ := gives_addStyles.1 hstyles
  obtain ⟨source, t, hread', hlink⟩ := gives_bind.1 hbehind
  obtain ⟨hsource, rfl⟩ := gives_ofExcept.1 hread'
  obtain ⟨filling, t, hfilling, hspans⟩ := gives_bind.1 hlink
  obtain ⟨hfills, rfl⟩ := gives_fillSlot hfilling
  obtain ⟨linked, t, hlinked, hpure⟩ := gives_bind.1 hspans
  obtain ⟨heq, rfl⟩ := gives_pure.1 hpure
  cases heq
  exact ⟨_, _, linked, .intro ⟨hread, hsource, hfills⟩, hlinked, rfl, rfl⟩

/-- If files are reached by the rules, parts are linked by the rules. -/
theorem links_of_gives {reach : Path → Build ModuleNumber}
    (hreach : ∀ {path s n s'}, Gives (reach path) s n s' → l.Reaches s path n s') {file : Path}
    {parts : List Part} {linked : List Linked}
    (h : Gives (parts.mapM (l.linkPart reach file)) s linked s') :
    l.Links s file parts linked s' := by
  -- on the parts; entering a file is the only step that is not one of `Settles`
  induction parts generalizing s linked with
  | nil =>
    obtain ⟨rfl, rfl⟩ := gives_mapM_nil.1 h
    exact .nil
  | cons part parts ih =>
    obtain ⟨link, t, rest, hlink, hrest, rfl⟩ := gives_mapM_cons.1 h
    cases part with
    | copy text =>
      obtain ⟨rfl, rfl⟩ := gives_pure.1 hlink
      exact .settle .copy (ih hrest)
    | inline target =>
      obtain ⟨text, u, htext, hpure⟩ := gives_bind.1 hlink
      obtain ⟨rfl, rfl⟩ := gives_pure.1 hpure
      exact .settle (.inline htext) (ih hrest)
    | follow call =>
      obtain ⟨u, t', hget, hlook⟩ := gives_bind.1 hlink
      obtain ⟨rfl, rfl⟩ := gives_get.1 hget
      obtain ⟨destination, t', hexcept, hgo⟩ := gives_bind.1 hlook
      obtain ⟨hdest, rfl⟩ := gives_ofExcept.1 hexcept
      cases destination with
      | library target =>
        obtain ⟨rfl, rfl⟩ := gives_pure.1 hgo
        exact .settle (.library hdest) (ih hrest)
      | file path =>
        obtain ⟨n, u, hpath, hpure⟩ := gives_bind.1 hgo
        obtain ⟨rfl, rfl⟩ := gives_pure.1 hpure
        cases hreach hpath with
        | complete hfound => exact .settle (.complete hdest hfound) (ih hrest)
        | enter hnew hvisits =>
          obtain ⟨s₁, hopens, hlinks⟩ := hvisits
          exact .enter hdest hnew hopens hlinks (ih hrest)

/-- Files are reached by the rules, however deeply they may be read inside each other. -/
theorem reaches_of_gives {depth : Nat} {path : Path} {n : ModuleNumber}
    (h : Gives (l.reachWithin depth path) s n s') : l.Reaches s path n s' := by
  -- on the depth, which only bounds how files are nested: the rules do not mention it
  induction depth generalizing path s n s' with
  | zero => exact absurd h not_gives_throw
  | succ depth ih =>
    obtain ⟨u, t, hget, hmatch⟩ := gives_bind.1 h
    obtain ⟨rfl, rfl⟩ := gives_get.1 hget
    cases hfind : t.table.find? path with
    | some found =>
      simp only [hfind] at hmatch
      obtain ⟨rfl, rfl⟩ := gives_pure.1 hmatch
      exact .complete hfind
    | none =>
      simp only [hfind] at hmatch
      cases hprogress : t.inProgress.any (·.same path) with
      | true =>
        -- a file that requires itself ends the build
        rw [hprogress, if_pos rfl] at hmatch
        obtain ⟨_, _, hthrow, _⟩ := gives_bind.1 hmatch
        exact absurd hthrow not_gives_throw
      | false =>
        rw [hprogress, if_neg Bool.false_ne_true] at hmatch
        obtain ⟨text, u, hread, hrest⟩ := gives_bind.1 hmatch
        obtain ⟨htext, rfl⟩ := gives_readText.1 hread
        obtain ⟨⟨text', dependencies⟩, v, hduring, hadd⟩ := gives_bind.1 hrest
        obtain ⟨w, hlink, rfl⟩ := gives_during.1 hduring
        obtain ⟨rfl, rfl⟩ := gives_addModule.1 hadd
        obtain ⟨spans, s₁, linked, hopens, hparts, rfl, rfl⟩ := gives_linkText htext hlink
        exact .enter ⟨hfind, hprogress⟩ ⟨s₁, hopens, links_of_gives ih hparts⟩

end Soundness

/-- A build that ends well visits the file at its root and completes it last of all. -/
theorem completes_of_graph {files : FileSystem} {root : Path} {g : ModuleGraph}
    (h : (l.graph files root).1 = .ok g) :
    ∃ final, l.Completes files root final ∧
      g = ⟨final.table.modules, final.table.nextNumber - 1, final.styles⟩ := by
  cases hroot : l.lookup.rootFile files root with
  | error e =>
    rw [graph, hroot] at h
    cases h
  | ok path =>
    rw [graph, hroot] at h
    simp only at h
    cases hrun : (l.reach path).run.run { files } with
    | mk result s' =>
      rw [hrun] at h
      cases result with
      | error e => cases h
      | ok entry =>
        cases h
        -- the table is empty at first, so the root is not taken from it
        cases reaches_of_gives hrun with
        | complete hfound => cases hfound
        | enter _ hvisits => exact ⟨_, ⟨path, _, _, _, hroot, hvisits, rfl⟩, rfl⟩

end Linker

end ScriptBundle
