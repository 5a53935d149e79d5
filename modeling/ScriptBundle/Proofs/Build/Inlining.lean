/-
# Templates in files of their own

If templates are compiled, a call directly behind the words of a template option is replaced by the
compiled template of the file that it names.  Whether a call stands there may as well be seen at the end of
the text that was put out before it: this text holds calls and compiled templates, but they end with
characters that no option has, so what is seen is text of the script.

## Main content

- `Linker.linkByOutput` decides by the text that was put out, and `Linker.linkSpans_eq_linkByOutput` says
  that this is the same.
- `Linker.CompilesAt` says that a build compiles a template in the place of a call, which changes nothing
  but files.
- `Linker.templates_of_graph`: the scripts of a build that compiles templates.
-/
import ScriptBundle.Proofs.Build.Following
import ScriptBundle.Proofs.Require.Fragment

namespace ScriptBundle

open Text (Sealed)

namespace Linker

open Build

variable {l : Linker} {files : FileSystem} {root file : Path} {reach : Path → Build ModuleNumber}

/-! ## Looking back at the output -/

/-- Links spans one after the other behind a text that was put out before, with the dependencies that were
found.  If templates are compiled and this text ends with the words of a template option, a call is
replaced together with these words. -/
def linkByOutput (l : Linker) (reach : Path → Build ModuleNumber) (file : Path) (done : Text)
    (found : List (Text × ModuleNumber)) : List Span → Build (Text × Dependencies)
  | [] => return (done, Dependencies.ofList found)
  | .plain text :: spans => l.linkByOutput reach file (done ++ text) found spans
  | .require call :: spans =>
    match if l.compiler.isSome then Part.before? Part.templateOption done else none with
    | some front => do
      let text ← l.inlineText file call.target
      l.linkByOutput reach file (front ++ text) found spans
    | none => do
      let entry ← l.followCall reach file call
      l.linkByOutput reach file (done ++ call.text) (found ++ entry.toList) spans

/-- What is done behind a compiled template need not be known for other texts. -/
theorem inlineText_bind_congr {α : Type} {f f' : Text → Build α} {target : Text}
    (hcompiler : l.compiler.isSome = true)
    (h : ∀ functions : RenderFunctions, f functions.optionText = f' functions.optionText) :
    l.inlineText file target >>= f = l.inlineText file target >>= f' := by
  obtain ⟨compiler, hcompiler⟩ := Option.isSome_iff_exists.1 hcompiler
  simp only [inlineText, hcompiler, bind_assoc, pure_bind, h]

/-- Behind a sealed text, linking by the output is linking the parts of the spans. -/
theorem linkByOutput_eq {done : Text} (hdone : Sealed done) (found : List (Text × ModuleNumber))
    {spans : List Span} (hspans : Span.Canonical spans)
    (hcalls : ∀ call, .require call ∈ spans → call.IsWritten) :
    l.linkByOutput reach file done found spans =
      (fun linked => (done ++ linked.flatMap Linked.text,
          Dependencies.ofList (found ++ linked.filterMap Linked.dependency))) <$>
        (Part.ofSpans l.compiler.isSome spans).mapM (l.linkPart reach file) := by
  -- along the parts; plain text comes together with the call behind it, and both leave a sealed text
  fun_induction Part.ofSpans l.compiler.isSome spans generalizing done found with
  | case1 => simp [linkByOutput]
  | case2 text call spans front hfront ih =>
    rw [Option.ite_none_right_eq_some] at hfront
    obtain ⟨hcompiler, hfront⟩ := hfront
    have hlook : Part.before? Part.templateOption (done ++ text) = some (done ++ front) := by
      rw [Part.before?_append_of_sealed hdone, hfront, Option.map_some]
    simp only [linkByOutput, hcompiler, if_true, hlook, List.mapM_cons, linkPart, pure_bind,
      bind_assoc, map_bind, map_pure]
    refine inlineText_bind_congr hcompiler fun functions => ?_
    rw [ih (functions.sealed_optionText (done ++ front)) found hspans.tail.tail
      fun other hother => hcalls other (by simp [hother])]
    simp [hcompiler]
  | case3 text call spans hnone ih =>
    have hcall := hcalls call (by simp)
    have hlook : (if l.compiler.isSome = true then Part.before? Part.templateOption (done ++ text)
        else none) = none := by
      split
      · next hcompiler =>
        rw [if_pos hcompiler] at hnone
        rw [Part.before?_append_of_sealed hdone, hnone, Option.map_none]
      · rfl
    have hbehind (entry : Option (Text × ModuleNumber)) := ih (hcall.sealed (done ++ text))
      (found ++ entry.toList) hspans.tail.tail fun other hother => hcalls other (by simp [hother])
    simp only [linkByOutput, hlook, List.mapM_cons, linkPart_follow, hbehind]
    simp [linkPart, filterMap_cons_toList]
  | case4 text spans hother ih =>
    obtain rfl := hspans.eq_nil_of_not_require hother
    simp [linkByOutput, linkPart, Part.ofSpans]
  | case5 call spans ih =>
    have hcall := hcalls call (by simp)
    have hlook : (if l.compiler.isSome = true then Part.before? Part.templateOption done
        else none) = none := by
      rw [Part.before?_eq_none_of_sealed hdone, ite_self]
    have hbehind (entry : Option (Text × ModuleNumber)) := ih (hcall.sealed done)
      (found ++ entry.toList) hspans.tail fun other hother => hcalls other (by simp [hother])
    simp only [linkByOutput, hlook, List.mapM_cons, linkPart_follow, hbehind]
    simp [filterMap_cons_toList]

/-- Deciding by the output is deciding by the spans. -/
theorem linkSpans_eq_linkByOutput (l : Linker) (reach : Path → Build ModuleNumber) (file : Path)
    (pieces : List Piece) :
    l.linkSpans reach file (Span.ofPieces pieces) =
      l.linkByOutput reach file [] [] (Span.ofPieces pieces) := by
  have hcanonical : Span.Canonical (Span.ofPieces pieces) := Span.canonical_ofTokens _
  rw [linkByOutput_eq Text.sealed_nil [] hcanonical
    fun call hcall => Span.isWritten_of_require_mem hcall, linkSpans, map_eq_pure_bind]
  rfl

/-! ## What takes the place of a call -/

variable {s s' : BuildState} {parts : List Part} {linked : List Linked} {target text : Text}

/-- A build compiles a template in the place of a call in a file: it is at this call, reads the file that
the target spells as it is at this moment, and goes on behind the call with the compiled template.  Nothing
but files has changed then, and only by the compiler. -/
def CompilesAt (l : Linker) (files : FileSystem) (root file : Path) (target text : Text) : Prop :=
  ∃ compiler markup functions before after parts, l.compiler = some compiler ∧
    l.Amid files root before file (.inline target :: parts) ∧ l.Amid files root after file parts ∧
    before.files.readText (Lookup.targetPath file target).folded = .ok markup ∧
    (compiler markup).run.run before.files = (.ok functions, after.files) ∧
    after = { before with files := after.files } ∧ text = functions.optionText

/-- A part that is replaced is compiled. -/
theorem Amid.compilesAt (h : l.Amid files root s file (.inline target :: parts))
    (hcompiler : l.compiler.isSome = true)
    (htext : Gives (l.inlineText file target) s text s') :
    l.CompilesAt files root file target text := by
  have hafter := h.next (.settle (.inline htext) .nil)
  obtain ⟨compiler, hcompiler⟩ := Option.isSome_iff_exists.1 hcompiler
  obtain ⟨markup, functions, hmarkup, hrun, hstate, heq⟩ := of_gives_inlineText hcompiler htext
  exact ⟨compiler, markup, functions, s, s', parts, hcompiler, h, hafter, hmarkup, hrun, hstate, heq⟩

/-- What a build that compiles templates makes of the parts of a file. -/
theorem Amid.writes (h : l.Amid files root s file parts) (hcompiler : l.compiler.isSome = true)
    (hlinks : l.Links s file parts linked s') :
    List.Forall₂ (Fragment.Writes (l.CompilesAt files root file)) parts linked := by
  induction hlinks with
  | nil => exact .nil
  | settle hpart _ ih =>
    refine .cons ?_ (ih (h.next (.settle hpart .nil)))
    cases hpart with
    | copy => exact .copy
    | inline htext => exact .inline (h.compilesAt hcompiler htext)
    | library _ => exact .follow none
    | @complete call _ found _ _ => exact .follow (some found.number)
  | enter hdest hnew hopens hinner _ _ ih =>
    exact .cons (.follow (some _)) (ih (h.next (.enter hdest hnew hopens hinner .nil)))

/-! ## The scripts of a graph -/

/-- If templates are compiled, a script is made of fragments: text and calls that are kept, and calls that
are replaced together with the words of a template option in front of them.  The fragments make up the
file, and what they become makes up the module.  Their calls are those that are recognized in the file, and
exactly those directly behind the words of an option are replaced, each by the compiled template of the
file that its target spells.  The dependencies come from the calls that are kept.  And it would make no
difference if the text that was put out decided which calls stand behind an option. -/
theorem templates_of_graph {g : ModuleGraph} {compiler : Compiler}
    (h : (l.graph files root).1 = .ok g) (hcompiler : l.compiler = some compiler) :
    ∀ m ∈ g.modules, FileKind.ofPath m.path = .script →
      ∃ now text fragments, l.Becomes files now ∧ now.readText m.path = .ok text ∧
        fragments.flatMap Fragment.source = text ∧
        fragments.flatMap Fragment.output = m.text ∧
        Dependencies.ofList (fragments.filterMap Fragment.dependency) = m.dependencies ∧
        Fragment.callsFrom 0 fragments = (Span.calls (Span.ofText text)).map (fun found =>
          (found.1, found.2, Fragment.behindOption text found.1)) ∧
        (∀ call out, .replaced call out ∈ fragments →
          l.CompilesAt files root m.path call.target out) ∧
        ∀ reach, l.linkSpans reach m.path (Span.ofText text) =
          l.linkByOutput reach m.path [] [] (Span.ofText text) := by
  intro m hm hkind
  obtain ⟨final, hfinal, rfl⟩ := completes_of_graph h
  have hsome : l.compiler.isSome = true := Option.isSome_of_eq_some hcompiler
  rcases hfinal.origin hm with ⟨spans, hfile⟩ | ⟨s, component, markup, ⟨hnone, -⟩, -⟩
  · obtain ⟨s, linked, s', henters, ⟨s₁, hopens, hlinks⟩, hmodule⟩ := hfile
    have hwrites := (henters.amid hopens).writes hsome hlinks
    cases hopens with
    | @intro text source filling hreads =>
      have hcanonical : Span.Canonical (Span.ofText text) := Span.canonical_ofTokens _
      rw [hreads.spans_of_script hkind, partsOf, hsome] at hwrites
      obtain ⟨fragments, hshows⟩ := Fragment.exists_shows hwrites hcanonical
        (fun call hcall => Span.isWritten_of_require_mem hcall) Text.sealed_nil
      refine ⟨s.files, text, fragments, henters.becomes, hreads.text_eq, ?_, ?_, ?_, ?_,
        hshows.related, fun reach => linkSpans_eq_linkByOutput l reach m.path _⟩
      · rw [hshows.source_eq, Span.text_ofText]
      · rw [hshows.output_eq, hmodule]
        rfl
      · rw [hshows.dependency_eq, hmodule]
        rfl
      · have hcalls := hshows.calls_eq
        rwa [List.nil_append, Span.text_ofText] at hcalls
  · cases hnone.symm.trans hcompiler

/-- A script with two references to a template, and with a call directly behind one of them. -/
def viewScript : String :=
  "x = [\x7btemplate: require('./v.html')require('./b')\x7d,\n" ++
    "\x7btemplate: require('./v.html');\x7d];\n"

/-- This script, with the template and the other script that it requires. -/
def viewTree : FileSystem :=
  sampleFiles [("a.js", viewScript), ("b.js", "module.exports = 1;\n"), ("v.html", "<p>\n")]

/-- A linker whose compiler writes a call and the words of a template option. -/
def viewLinker : Linker where
  compiler := some (Compiler.framing "require('./c');".toList "template: ".toList [])

/-- The graph of this script. -/
def viewGraph : ModuleGraph where
  modules :=
    [⟨1, ⟨"b.js".toList⟩, "module.exports = 1;\n".toList, []⟩,
      ⟨2, ⟨"a.js".toList⟩,
        ("x = [\x7brender: function() \x7brequire('./c');<p>\ntemplate: \x7drequire('./b')\x7d,\n" ++
          "\x7brender: function() \x7brequire('./c');<p>\ntemplate: \x7d\x7d];\n").toList,
        [("./b".toList, 1)]⟩]
  entry := 2
  styles := []

/-- The script gives its graph. -/
theorem graph_viewTree : (viewLinker.graph viewTree ⟨"a.js".toList⟩).1 = .ok viewGraph := by
  decide +kernel

/-- Of the calls of this script, the first and the last one are replaced, and the one between them is
followed, although the compiler put the words of an option in front of it. -/
theorem templates_viewTree :
    (viewLinker.graph viewTree ⟨"a.js".toList⟩).1 = .ok viewGraph ∧
      viewLinker.compiler = some (Compiler.framing "require('./c');".toList "template: ".toList []) ∧
      ∃ m ∈ viewGraph.modules, FileKind.ofPath m.path = .script ∧ m.path = ⟨"a.js".toList⟩ ∧
        ∃ fragments : List Fragment, fragments.flatMap Fragment.source = viewScript.toList ∧
          fragments.flatMap Fragment.output = m.text ∧
          (Fragment.callsFrom 0 fragments).map (·.2.2) = [true, false, true] := by
  have hm := List.mem_of_getElem? (rfl : viewGraph.modules[1]? = some _)
  obtain ⟨now, text, fragments, hnow, hread, hsource, houtput, -, hcalls, -⟩ :=
    templates_of_graph graph_viewTree rfl _ hm (by decide)
  have hkeeps : viewLinker.KeepsFiles viewTree := by
    apply keepsFiles_of_isPure
    intro compiler hcompiler
    cases hcompiler
    exact ⟨_, rfl⟩
  obtain rfl := hkeeps.eq_of_becomes hnow
  have hfound : viewTree.readText ⟨"a.js".toList⟩ = .ok viewScript.toList := by
    decide +kernel
  obtain rfl := Except.ok.inj (hread.symm.trans hfound)
  refine ⟨graph_viewTree, rfl, _, hm, by decide, rfl, fragments, hsource, houtput, ?_⟩
  rw [hcalls]
  decide +kernel

end Linker

end ScriptBundle
