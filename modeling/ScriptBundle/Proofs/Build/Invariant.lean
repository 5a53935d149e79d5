/-
# What every call of a build keeps

A build goes through five kinds of calls, which call each other: it reaches a file, links its text,
opens the text, makes the template of a component a module, and links spans.  Each of them keeps the
parts of the state in step, and keeps what is there, also if it fails halfway.

## Main content

- `Linker.ComesTo` lists the calls that a build makes, each with the state in which it makes it,
  also in a build that fails later on.
- `BuildState.InStep` says that the counter and the index of the table fit its modules, and
  `Build.Upholds` that a call leaves such a state, in which nothing that was there is lost.
- `Linker.calls_uphold`: every call of a build does so.
-/
import ScriptBundle.Proofs.Build.Frame
import ScriptBundle.Proofs.Build.Origin

namespace ScriptBundle

open Build (Gives Keeps)

/-! ## States in step -/

/-- The parts of the table fit each other: the counter is one more than the number of modules, and the
index knows the last module with each path. -/
structure BuildState.InStep (s : BuildState) : Prop where
  /-- The next number is one more than the number of modules. -/
  nextNumber_eq : s.table.nextNumber = s.table.modules.length + 1
  /-- The index maps a path to the position of the last module with it. -/
  position?_iff (p : Path) (i : Nat) : s.table.position? p = some i ↔ s.table.IsLast p i

/-- In a state with a consistent table, the parts of the table fit each other. -/
theorem BuildState.inStep_of_consistent {s : BuildState} (h : s.table.Consistent) : s.InStep where
  nextNumber_eq := h.nextNumber_eq
  position?_iff _ _ := h.position?_eq_some_iff

/-- A step that begins in a state, however it ends: the same files are being read behind it, no
module and no style is lost, and the parts of the table fit each other. -/
structure Build.Upholds {α : Type} (step : Build α) (s : BuildState) : Prop where
  /-- The same files are being read. -/
  inProgress : (step.run.run s).2.inProgress = s.inProgress
  /-- The modules are kept. -/
  modules : s.table.modules <+: (step.run.run s).2.table.modules
  /-- The styles are kept. -/
  styles : s.styles <+: (step.run.run s).2.styles
  /-- The parts of the table fit each other. -/
  inStep : (step.run.run s).2.InStep

/-- A step that ends well relates the states that it keeps related. -/
theorem Build.Keeps.of_gives {α : Type} {R : BuildState → BuildState → Prop} {step : Build α}
    {s s' : BuildState} {a : α} (h : Keeps R step) (hgives : Gives step s a s') : R s s' := by
  have hkeeps := h s
  rw [hgives] at hkeeps
  exact hkeeps

/-- A step that keeps every relation that holds across a build upholds a state with a consistent
table. -/
theorem Linker.upholds_of_keeps {α : Type} {l : Linker} {step : Build α} {s : BuildState}
    (h : ∀ {R : BuildState → BuildState → Prop}, l.Frames R → Keeps R step)
    (hs : s.table.Consistent) : step.Upholds s := by
  have hgrows := h l.frames_grows s
  exact ⟨hgrows.inProgress, hgrows.modules, hgrows.styles,
    BuildState.inStep_of_consistent (h l.frames_consistent s hs)⟩

namespace Linker

variable {l : Linker} {files : FileSystem} {root : Path} {s : BuildState}

/-! ## Opening a text -/

/-- Opens the text of a file: its styles are added, its template is seen to, and the spans that are
to be linked are given. -/
def openText (l : Linker) (file : Path) (text : Text) : Build (List Span) := do
  let reading := Source.read file text
  Build.addStyles file reading.styles
  let source ← Build.ofExcept reading.source
  let filling ← l.fillSlot file source.template
  return source.spans filling

/-- A text is linked by opening it and linking its spans. -/
theorem linkText_eq (reach : Path → Build ModuleNumber) (file : Path) (text : Text) :
    l.linkText reach file text = l.openText file text >>= l.linkSpans reach file := by
  simp only [linkText, openText, bind_assoc, pure_bind]

/-- Opening a text keeps what holds across a build. -/
theorem Frames.openText {R : BuildState → BuildState → Prop} (h : l.Frames R) (file : Path)
    (text : Text) : Keeps R (l.openText file text) :=
  .bind h (.addStyles h _ _) fun _ => .bind h (.ofExcept h _) fun _ =>
    .bind h (h.fillSlot file _) fun _ => .pure h _

/-! ## The calls of a build -/

/-- What a build is called to do. -/
inductive Errand where
  /-- To reach a file. -/
  | reach (path : Path)
  /-- To link the text of a file. -/
  | linkText (file : Path) (text : Text)
  /-- To open the text of a file. -/
  | openText (file : Path) (text : Text)
  /-- To make the template of a component a module. -/
  | addTemplate (component : Path) (markup : Text)
  /-- To link the spans of a file. -/
  | linkSpans (file : Path) (spans : List Span)

/-- The calls that a build from a root makes, each with the state in which it makes it.  What comes
behind a call is not asked for: the build may fail there. -/
inductive ComesTo (l : Linker) (files : FileSystem) (root : Path) : Errand → BuildState → Prop
  /-- The file at the root is reached first. -/
  | root {path : Path} (hroot : l.lookup.rootFile files root = .ok path) :
    ComesTo l files root (.reach path) { files }
  /-- The text of a new file is linked while the file is being read. -/
  | linkText {s : BuildState} {path : Path} {text : Text} (h : ComesTo l files root (.reach path) s)
    (hnew : s.IsNew path) (htext : s.files.readText path = .ok text) :
    ComesTo l files root (.linkText path text) { s with inProgress := s.inProgress ++ [path] }
  /-- A text that is linked is opened first. -/
  | openText {s : BuildState} {file : Path} {text : Text}
    (h : ComesTo l files root (.linkText file text) s) : ComesTo l files root (.openText file text) s
  /-- When a text is opened, its template becomes a module if there is no compiler.  Its styles are
  there by then. -/
  | addTemplate {s : BuildState} {file : Path} {text markup : Text} {source : Source}
    (h : ComesTo l files root (.openText file text) s)
    (hsource : (Source.read file text).source = .ok source)
    (htemplate : source.template = some markup) (hcompiler : l.compiler = none) :
    ComesTo l files root (.addTemplate file markup)
      { s with styles := s.styles ++ Stylesheet.ofComponent file (Source.read file text).styles }
  /-- The spans of a text that was opened are linked. -/
  | linkSpans {s s' : BuildState} {file : Path} {text : Text} {spans : List Span}
    (h : ComesTo l files root (.linkText file text) s)
    (hopen : Gives (l.openText file text) s spans s') : ComesTo l files root (.linkSpans file spans) s'
  /-- When the parts in front of a call are linked, the file that the call leads to is reached. -/
  | follow {s s' : BuildState} {file path : Path} {spans : List Span} {front back : List Part}
    {call : Call} {linked : List Linked} {depth : Nat}
    (h : ComesTo l files root (.linkSpans file spans) s)
    (hparts : l.partsOf spans = front ++ .follow call :: back)
    (hfront : Gives (front.mapM (l.linkPart (l.reachWithin depth) file)) s linked s')
    (hdest : l.destination s' file call.target = .ok (.file path)) :
    ComesTo l files root (.reach path) s'

/-- Whenever a build makes a call, the table is consistent. -/
theorem ComesTo.consistent {errand : Errand} (h : l.ComesTo files root errand s) :
    s.table.Consistent := by
  induction h with
  | root _ => exact ModuleTable.consistent_empty
  | linkText _ _ _ ih => exact ih
  | openText _ ih => exact ih
  | addTemplate _ _ _ _ ih => exact ih
  | linkSpans _ hopen ih => exact (l.frames_consistent.openText _ _).of_gives hopen ih
  | follow _ _ hfront _ ih =>
    have hframes := l.frames_consistent
    exact (Keeps.mapM hframes (hframes.linkPart (hframes.reachWithin _) _) _).of_gives hfront ih

/-- The index knows the module of a file that was reached. -/
theorem Reaches.exists_position? {path : Path} {number : ModuleNumber} {s' : BuildState}
    (h : l.Reaches s path number s') :
    ∃ i m, s'.table.position? path = some i ∧ s'.table.modules[i]? = some m ∧
      m.number = number := by
  cases h with
  | complete hfound =>
    obtain ⟨i, hi, hm⟩ := Option.bind_eq_some_iff.1 hfound
    exact ⟨i, _, hi, hm, rfl⟩
  | @enter t spans linked hnew hvisits =>
    -- the file was completed last, so it stands at the end of the table
    refine ⟨t.table.modules.length, t.moduleOf path linked, ?_, ?_, rfl⟩
    · show (t.table.add path _ _).position? path = _
      rw [ModuleTable.position?_add, if_pos (Path.same_refl path)]
    · rw [BuildState.modules_close]
      exact List.getElem?_concat_length

/-! ## Every call keeps the state in step -/

/-- In every state in which a build makes a call, the parts of the table fit each other, and every
call that is made in this state, with whatever arguments, keeps them so and keeps what is there,
whether it fails or not.  Behind a file that was reached, the index knows its module. -/
theorem calls_uphold {errand : Errand} (h : l.ComesTo files root errand s) (depth : Nat) :
    s.InStep ∧
    (∀ path, (l.reachWithin depth path).Upholds s) ∧
    (∀ file text, (l.linkText (l.reachWithin depth) file text).Upholds s) ∧
    (∀ file text, (l.openText file text).Upholds s) ∧
    (∀ component markup, (addTemplate component markup).Upholds s) ∧
    (∀ file spans, (l.linkSpans (l.reachWithin depth) file spans).Upholds s) ∧
    ∀ path number s', Gives (l.reachWithin depth path) s number s' →
      ∃ i m, s'.table.position? path = some i ∧ s'.table.modules[i]? = some m ∧
        m.number = number := by
  have hs := h.consistent
  refine ⟨BuildState.inStep_of_consistent hs, ?_, ?_, ?_, ?_, ?_, ?_⟩
  · exact fun path => upholds_of_keeps (fun hframes => hframes.reachWithin depth path) hs
  · exact fun file text => upholds_of_keeps
      (fun hframes => hframes.linkText (hframes.reachWithin depth) file text) hs
  · exact fun file text => upholds_of_keeps (fun hframes => hframes.openText file text) hs
  · exact fun component markup =>
      upholds_of_keeps (l := l) (fun hframes => hframes.addTemplate component markup) hs
  · exact fun file spans => upholds_of_keeps
      (fun hframes => hframes.linkSpans (hframes.reachWithin depth) file spans) hs
  · exact fun path number s' hgives => (reaches_of_gives hgives).exists_position?

/-! ## A build that fails halfway -/

/-- A script that requires a component with a template and another script, which requires the
component too, and then something that is not there. -/
def haltedTree : FileSystem :=
  sampleFiles
    [("a.js", "require('./c.vue');\nrequire('./b');\n"),
      ("b.js", "require('./c.vue');\nrequire('./z');\n"),
      ("c.vue", "<template>\n<b>\n</template>\n<script>\nmodule.exports = \x7b\n\x7d;\n")]

/-- The state in which the build of the halted tree reaches the script that it fails in. -/
def haltedState : BuildState where
  files := haltedTree
  table :=
    (({} : ModuleTable).add ⟨"c.vue.template".toList⟩ "module.exports = \"<b>\\n\";\n".toList []).add
      ⟨"c.vue".toList⟩ "module.exports = \x7b\ntemplate: require('c.vue.template'),\x7d;\n".toList
      [("c.vue.template".toList, 1)]
  inProgress := [⟨"a.js".toList⟩]

/-- The calls in the first script of the halted tree. -/
def haltedCalls : Call × Call :=
  (⟨"./c.vue".toList, "require('./c.vue');".toList⟩, ⟨"./b".toList, "require('./b');".toList⟩)

/-- The build of the halted tree reaches the second script when the component is complete. -/
theorem comesTo_haltedState :
    sampleLinker.ComesTo haltedTree ⟨"a.js".toList⟩ (.reach ⟨"b.js".toList⟩) haltedState := by
  have hroot : sampleLinker.ComesTo haltedTree ⟨"a.js".toList⟩ (.reach ⟨"a.js".toList⟩)
      { files := haltedTree } := .root (by decide +kernel)
  have htext : haltedTree.readText ⟨"a.js".toList⟩ =
      .ok "require('./c.vue');\nrequire('./b');\n".toList := by decide +kernel
  have hopen : Gives
      (sampleLinker.openText ⟨"a.js".toList⟩ "require('./c.vue');\nrequire('./b');\n".toList)
      { files := haltedTree, inProgress := [⟨"a.js".toList⟩] }
      [.require haltedCalls.1, .plain ['\n'], .require haltedCalls.2, .plain ['\n']]
      { files := haltedTree, inProgress := [⟨"a.js".toList⟩] } :=
    Prod.ext (by decide +kernel) (by decide +kernel)
  have hfront : Gives
      ([.follow haltedCalls.1, .copy ['\n']].mapM
        (sampleLinker.linkPart (sampleLinker.reachWithin depthBound) ⟨"a.js".toList⟩))
      { files := haltedTree, inProgress := [⟨"a.js".toList⟩] }
      [⟨haltedCalls.1.text, some ("./c.vue".toList, 2)⟩, ⟨['\n'], none⟩] haltedState :=
    Prod.ext (by decide +kernel) (by decide +kernel)
  exact ((hroot.linkText ⟨rfl, rfl⟩ htext).linkSpans hopen).follow rfl hfront (by decide +kernel)

/-- The second script fails the build.  It is no longer being read then, the first one still is, and
the component and its template are kept. -/
theorem calls_uphold_haltedTree :
    sampleLinker.ComesTo haltedTree ⟨"a.js".toList⟩ (.reach ⟨"b.js".toList⟩) haltedState ∧
      ((sampleLinker.reach ⟨"b.js".toList⟩).run.run haltedState).1 =
        .error (.unresolved "./z".toList ⟨"b.js".toList⟩) ∧
      (sampleLinker.reach ⟨"b.js".toList⟩).Upholds haltedState := by
  obtain ⟨-, hreach, -⟩ := calls_uphold comesTo_haltedState depthBound
  exact ⟨comesTo_haltedState, by decide +kernel, hreach _⟩

end Linker

end ScriptBundle
