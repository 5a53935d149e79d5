/-
# Builds that compile their templates

A build that compiles templates enters the same files, in the same order, as one that makes modules of
them.  Only the modules of the templates are missing, with the numbers that they take; and where a
component refers to the module of its template, the compiled template stands.  This needs names that
tell templates from files, and a compiler that does not fail and leaves the files as they are.

## Main content

- `Linker.alike_linkText` and `Linker.alike_reachKnowing`: files are linked and reached alike.
- `ModuleGraph.CompilesTo` says what compiling makes of a graph.
- `Linker.graph_compilesTo`: that is what it makes of the graph of every build.
- `TemplatesApart.of_entries` finds by reading its texts that a small file system keeps templates
  apart.
- `Linker.compiling_fails_erasingCompiler`: a compiler that takes files away can make a build fail.
-/
import ScriptBundle.Proofs.Build.Compiled
import ScriptBundle.Proofs.Build.Mirror
import ScriptBundle.Proofs.FileSystem.Location
import ScriptBundle.Proofs.FileSystem.Replacement

namespace ScriptBundle

/-- A compiler never fails with some files, and leaves them as they are. -/
def Compiler.EndsWell (compiler : Compiler) (files : FileSystem) : Prop :=
  ∀ markup, ∃ functions, (compiler markup).run.run files = (.ok functions, files)

variable {compiler : Compiler} {files : FileSystem} {s t : BuildState} {path : Path}

namespace BuildState.CompilesTo

/-- Styles may be added to both states. -/
theorem style (h : s.CompilesTo compiler files t) (blocks : Stylesheet) :
    CompilesTo compiler files { s with styles := s.styles ++ blocks }
      { t with styles := t.styles ++ blocks } where
  files_eq := h.files_eq
  files_eq' := h.files_eq'
  inProgress_eq := h.inProgress_eq
  styles_eq := by rw [h.styles_eq]
  table := h.table

/-- A file may be read in both states. -/
theorem read (h : s.CompilesTo compiler files t) (path : Path) :
    CompilesTo compiler files { s with inProgress := s.inProgress ++ [path] }
      { t with inProgress := t.inProgress ++ [path] } where
  files_eq := h.files_eq
  files_eq' := h.files_eq'
  inProgress_eq := by rw [h.inProgress_eq]
  styles_eq := h.styles_eq
  table := h.table

/-- The innermost file may be done in both states. -/
theorem done (h : s.CompilesTo compiler files t) :
    CompilesTo compiler files { s with inProgress := s.inProgress.dropLast }
      { t with inProgress := t.inProgress.dropLast } where
  files_eq := h.files_eq
  files_eq' := h.files_eq'
  inProgress_eq := by rw [h.inProgress_eq]
  styles_eq := h.styles_eq
  table := h.table

/-- Tables may be changed in both states. -/
theorem change (h : s.CompilesTo compiler files t) {a b : ModuleTable}
    (htable : a.CompilesTo compiler files b) :
    CompilesTo compiler files { s with table := a } { t with table := b } where
  files_eq := h.files_eq
  files_eq' := h.files_eq'
  inProgress_eq := h.inProgress_eq
  styles_eq := h.styles_eq
  table := htable

end BuildState.CompilesTo

namespace Linker

open Build

variable {lookup : Lookup} {reach reach' : Path → Build ModuleNumber} {root : Path}

/-- A compiler that ends well and leaves the files as they are changes nothing in the state. -/
theorem gives_compile_of_run {markup : Text} {functions : RenderFunctions}
    (h : (compiler markup).run.run s.files = (.ok functions, s.files)) :
    Gives (compile compiler path markup) s functions s :=
  gives_compile.2 ⟨by rw [h], by rw [h]⟩

section Lockstep

variable (hapart : TemplatesApart files) (hcompiler : compiler.EndsWell files)
  (hreach : ReachAlike compiler files reach reach')
  (hknown : ∀ {path s found}, s.table.find? path = some found → Gives (reach path) s found.number s)

include hapart hcompiler hreach hknown

/-- A source is linked alike in both builds if other files are reached alike. -/
theorem alike_linkSource {source : Source} (h : s.CompilesTo compiler files t)
    (hof : Source.IsOf files path source) :
    Alike
      (fillSlot ⟨lookup, none⟩ path source.template >>= fun filling =>
        linkSpans ⟨lookup, none⟩ reach path (source.spans filling)) s
      (fillSlot ⟨lookup, some compiler⟩ path source.template >>= fun filling =>
        linkSpans ⟨lookup, some compiler⟩ reach' path (source.spans filling)) t
      fun linked s' linked' t' => s.LeavesOff compiler files s' t' ∧
        LinksTo compiler files s'.table.modules path linked linked' := by
  cases htemplate : source.template with
  | none =>
    simp only [fillSlot, pure_bind]
    exact alike_linkSpans_of_none hapart hreach hof h htemplate
  | some markup =>
    -- the one build adds the module of the template while the other one compiles the template
    simp only [fillSlot, bind_assoc, pure_bind]
    obtain ⟨functions, hrun⟩ := hcompiler markup
    have htable := h.table.addTemplate
      (Source.nameEndsWith_templatePath (hof.isComponent htemplate)) (Literal.exportText markup)
    have hadd : Gives (addTemplate path markup) s ()
        { s with table := s.table.add (Source.templatePath path) (Literal.exportText markup) [] } :=
      gives_map.2 ⟨_, gives_addModule.2 ⟨rfl, rfl⟩, rfl⟩
    have hcompile : Gives (compile compiler path markup) t functions t :=
      gives_compile_of_run (by rw [h.files_eq', hrun])
    have hfill : Alike (addTemplate path markup) s (compile compiler path markup) t
        fun _ s' found t' => (found = functions ∧ t' = t) ∧ s' = { s with
          table := s.table.add (Source.templatePath path) (Literal.exportText markup) [] } :=
      .of_gives hadd hcompile ⟨⟨rfl, rfl⟩, rfl⟩
    refine .bind hfill ?_
    rintro _ _ _ _ - - ⟨⟨rfl, rfl⟩, rfl⟩
    have hholds : ∃ m ∈ (s.table.add (Source.templatePath path)
        (Literal.exportText markup) []).modules, m.path.same (Source.templatePath path) = true :=
      ⟨_, List.mem_append_right _ (List.mem_singleton_self _), Path.same_refl _⟩
    refine .mono (alike_linkSpans_of_template hapart hreach hof hknown (h.change htable) htemplate
      (congrArg Prod.fst hrun) hholds) ?_
    rintro linked s' linked' t' - - ⟨hleaves, hlinks⟩
    exact ⟨⟨hleaves.state, (List.prefix_append _ _).trans hleaves.modules⟩, hlinks⟩

/-- A file is linked alike in both builds if others are reached alike. -/
theorem alike_linkText (h : s.CompilesTo compiler files t) (hfile : files.isFile path = true)
    {text : Text} (htext : files.readText path = .ok text) :
    Alike (linkText ⟨lookup, none⟩ reach path text) s
      (linkText ⟨lookup, some compiler⟩ reach' path text) t
      fun linked s' linked' t' => s.LeavesOff compiler files s' t' ∧
        LinksTo compiler files s'.table.modules path linked linked' := by
  refine .bind .addStyles ?_
  rintro _ _ _ _ - - ⟨rfl, rfl⟩
  have hstyled := h.style (Stylesheet.ofComponent path (Source.read path text).styles)
  refine .bind (.ofExcept (f := id) (by rw [Option.map_id, id])) ?_
  rintro _ _ source _ - - ⟨⟨hsource, rfl⟩, rfl, rfl⟩
  have hof : Source.IsOf files path source := ⟨hfile, text, htext, hsource⟩
  refine .mono (alike_linkSource hapart hcompiler hreach hknown hstyled hof) ?_
  rintro linked s' linked' t' - - ⟨hleaves, hlinks⟩
  exact ⟨⟨hleaves.state, hleaves.modules⟩, hlinks⟩

end Lockstep

/-- Complete modules have the numbers without templates in the other build, so files are reached alike
if new ones are. -/
theorem ReachAlike.of_new
    (hknown : ∀ {path s found}, s.table.find? path = some found → Gives (reach path) s found.number s)
    (hknown' : ∀ {path s found}, s.table.find? path = some found →
      Gives (reach' path) s found.number s)
    (hnew : ∀ path s t, s.CompilesTo compiler files t →
      path.nameEndsWith Source.templateEnding = false → s.table.find? path = none →
      t.table.find? path = none → files.isFile path = true →
      Alike (reach path) s (reach' path) t fun n s' n' t' =>
        s.LeavesOff compiler files s' t' ∧ n ≤ s'.table.modules.length ∧
          n' = renumber s'.table.modules n) : ReachAlike compiler files reach reach' := by
  intro path s t h hplain hfile
  have heq := h.table.find?_eq path hplain
  cases hfound : s.table.find? path with
  | none =>
    rw [hfound, Option.map_none, Option.map_eq_none_iff] at heq
    exact hnew path s t h hplain hfound heq (hfile hfound)
  | some found =>
    rw [hfound, Option.map_some, Option.map_eq_some_iff] at heq
    obtain ⟨found', hfound', hnumber⟩ := heq
    have hmem := (h.table.left.of_find?_eq_some hfound).1
    exact .of_gives (hknown hfound) (hknown' hfound')
      ⟨h.leavesOff, (h.table.within found hmem).number_le, hnumber⟩

/-- Files are reached alike in both builds. -/
theorem alike_reachKnowing (hapart : TemplatesApart files) (hcompiler : compiler.EndsWell files)
    (lookup : Lookup) (depth : Nat) :
    ReachAlike compiler files (reachKnowing ⟨lookup, none⟩ depth)
      (reachKnowing ⟨lookup, some compiler⟩ depth) := by
  induction depth with
  | zero =>
    refine .of_new (gives_reachKnowing · 0) (gives_reachKnowing · 0) ?_
    intro path s t h hplain hfound hfound' hfile
    refine .bind .get ?_
    rintro _ s _ t - - ⟨⟨rfl, rfl⟩, rfl, rfl⟩
    simp only [hfound, hfound']
    exact .of_fails (fails_throw.2 rfl) (fails_throw.2 rfl)
  | succ depth ih =>
    refine .of_new (gives_reachKnowing · (depth + 1)) (gives_reachKnowing · (depth + 1)) ?_
    intro path s t h hplain hfound hfound' hfile
    refine .bind .get ?_
    rintro _ s _ t - - ⟨⟨rfl, rfl⟩, rfl, rfl⟩
    simp only [hfound, hfound', h.inProgress_eq]
    cases hprogress : s.inProgress.any (·.same path) with
    | true =>
      exact .of_fails (fails_bind.2 (.inl (fails_throw.2 rfl)))
        (fails_bind.2 (.inl (fails_throw.2 rfl)))
    | false =>
      simp only [Bool.false_eq_true, if_false]
      refine .bind (.readText (by rw [h.files_eq, h.files_eq'])) ?_
      rintro _ s text t - - ⟨⟨hread, rfl⟩, rfl, rfl⟩
      rw [h.files_eq] at hread
      have hlink : Alike (during path (linkText ⟨lookup, none⟩ (reachKnowing ⟨lookup, none⟩ depth)
            path text)) s
          (during path (linkText ⟨lookup, some compiler⟩ (reachKnowing ⟨lookup, some compiler⟩ depth)
            path text)) t fun linked s' linked' t' => s.LeavesOff compiler files s' t' ∧
          LinksTo compiler files s'.table.modules path linked linked' :=
        .during ((alike_linkText hapart hcompiler ih (gives_reachKnowing · depth) (h.read path) hfile
          hread).mono fun _ _ hrel => ⟨⟨hrel.1.state.done, hrel.1.modules⟩, hrel.2⟩)
      refine .bind hlink ?_
      rintro linked s₁ linked' t₁ - - ⟨hleaves, hlinks⟩
      obtain ⟨htable, hnumber⟩ := hleaves.state.table.add hplain hlinks.le hlinks.dependencies
        hlinks.text
      refine .mono .addModule ?_
      rintro _ _ _ _ - - ⟨⟨rfl, rfl⟩, rfl, rfl⟩
      have hkept : s.table.modules <+: (s₁.table.add path linked.1 linked.2).modules :=
        hleaves.modules.trans (List.prefix_append _ _)
      refine ⟨⟨hleaves.state.change htable, hkept⟩, ?_, hnumber⟩
      show s₁.table.nextNumber ≤ (s₁.table.modules ++ _).length
      rw [List.length_append, hleaves.state.table.left.nextNumber_eq]
      rfl

/-! ## Graphs -/

/-- A root is reached alike in both builds. -/
theorem alike_reach (hapart : TemplatesApart files) (hcompiler : compiler.EndsWell files)
    {start : Path} (hroot : lookup.rootFile files root = .ok start) :
    Alike (Linker.reach ⟨lookup, none⟩ start) { files }
      (Linker.reach ⟨lookup, some compiler⟩ start) { files }
      fun n s n' t => s.CompilesTo compiler files t ∧ n' = renumber s.table.modules n := by
  have hrun (l : Linker) (hl : l.lookup = lookup) :
      (l.reachKnowing depthBound start).run.run { files } = (l.reach start).run.run { files } := by
    obtain ⟨paths, hcovers, hlength⟩ := exists_covers l files
    exact below_reachKnowing depthBound start _ (not_fails_tooDeep (hl ▸ hroot) hcovers hlength)
  have hfile := Lookup.isFile_of_rootFile hroot
  have hstate : BuildState.CompilesTo compiler files { files } { files } :=
    ⟨rfl, rfl, rfl, rfl, ModuleTable.compilesTo_empty⟩
  have halike := (alike_reachKnowing hapart hcompiler lookup depthBound start _ _ hstate
    (hapart.file_ending start hfile) fun _ => hfile).of_run
      (hrun ⟨lookup, none⟩ rfl).symm (hrun ⟨lookup, some compiler⟩ rfl).symm
  refine halike.mono ?_
  rintro n s n' t - - ⟨hleaves, -, hnumber⟩
  exact ⟨hleaves.state, hnumber⟩

end Linker

/-- What compiling the templates makes of a graph. -/
structure ModuleGraph.CompilesTo (compiler : Compiler) (files : FileSystem) (g g' : ModuleGraph) :
    Prop where
  /-- The modules are those that are no templates, in the same order, and compiled. -/
  modules : List.Forall₂ (Module.CompilesTo compiler files g.modules)
    (g.modules.filter fun m => !m.isTemplate) g'.modules
  /-- The entry has the number without templates. -/
  entry_eq : g'.entry = renumber g.modules g.entry
  /-- The styles are the same. -/
  styles_eq : g'.styles = g.styles

namespace Linker

/-- The modules with the names of templates are those that a build makes of templates. -/
theorem isTemplate_iff {l : Linker} (hapart : TemplatesApart files) (hnone : l.compiler = none)
    {g : ModuleGraph} (h : (l.graph files root).1 = .ok g) {m : Module} (hm : m ∈ g.modules) :
    m.isTemplate = true ↔ l.IsTemplateModule files root m := by
  obtain ⟨final, hfinal, rfl⟩ := completes_of_graph h
  have hkeeps := keepsFiles_of_compiler_eq_none hnone files
  constructor
  · intro htemplate
    rcases hfinal.origin hm with ⟨spans, s, linked, s', henters, -, -⟩ | horigin
    · have hfile := henters.isFile
      rw [henters.files_eq hkeeps] at hfile
      rw [Module.isTemplate, hapart.file_ending m.path hfile] at htemplate
      cases htemplate
    · exact horigin
  · rintro ⟨s, component, markup, ⟨-, henters, text, source, filling, hreads, htemplate⟩, rfl⟩
    exact Source.nameEndsWith_templatePath
      (Source.isComponent_of_template hreads.source_eq htemplate)

/-- Compiling the templates changes only what takes their place.  A build that compiles them ends well
exactly if the one does that makes modules of them, and its graph is that of the other one without the
modules of templates. -/
theorem graph_compilesTo (hapart : TemplatesApart files) (hcompiler : compiler.EndsWell files)
    (lookup : Lookup) (root : Path) :
    ((∃ g, ((⟨lookup, none⟩ : Linker).graph files root).1 = .ok g) ↔
        ∃ g', ((⟨lookup, some compiler⟩ : Linker).graph files root).1 = .ok g') ∧
      ∀ g g', ((⟨lookup, none⟩ : Linker).graph files root).1 = .ok g →
        ((⟨lookup, some compiler⟩ : Linker).graph files root).1 = .ok g' →
        g.CompilesTo compiler files g' ∧ ∀ m ∈ g.modules,
          m.isTemplate = true ↔ (⟨lookup, none⟩ : Linker).IsTemplateModule files root m := by
  cases hroot : lookup.rootFile files root with
  | error e =>
    rw [graph, graph, hroot]
    simp
  | ok start =>
    rcases alike_reach hapart hcompiler hroot with
      ⟨e, e', hfails, hfails'⟩ | ⟨n, s, n', t, hgives, hgives', hstate, rfl⟩
    · rw [graph_of_fails hroot hfails, graph_of_fails hroot hfails']
      simp
    · have hgraph := graph_of_gives hroot hgives
      have htemplate := fun m => isTemplate_iff (m := m) hapart rfl hgraph
      rw [hgraph, graph_of_gives hroot hgives']
      refine ⟨⟨fun _ => ⟨_, rfl⟩, fun _ => ⟨_, rfl⟩⟩, ?_⟩
      intro g g' hg hg'
      obtain rfl := Except.ok.inj hg
      obtain rfl := Except.ok.inj hg'
      exact ⟨⟨hstate.table.modules, rfl, hstate.styles_eq⟩, htemplate⟩

end Linker

/-! ## A small build with and without a compiler -/

/-- A file of a small file system is one of the entries: it has the name of the entry and its text. -/
theorem exists_entry_of_isFile {entries : List (String × String)}
    (h : (sampleFiles entries).isFile path = true) :
    ∃ entry ∈ entries, (∀ name, path.fileName? = some name → name = entry.1.toList) ∧
      ∀ text, (sampleFiles entries).readText path = .ok text →
        Utf8.decode? (Utf8.encode entry.2.toList) = some text := by
  obtain ⟨loc, content, hloc, hnode⟩ := FileSystem.isFile_iff.1 h
  have hbytes := FileSystem.readBytes_of_node? hloc hnode
  rw [FileSystem.node?] at hnode
  split at hnode
  · cases hnode
  · obtain ⟨front, back, hnodes, -⟩ := List.lookup_eq_some_iff.1 hnode
    have hmem : (loc, Node.file content) ∈ (sampleFiles entries).nodes := by
      rw [hnodes]
      exact List.mem_append_right _ (List.mem_cons_self ..)
    obtain ⟨entry, hentry, heq⟩ := List.mem_map.1 hmem
    obtain ⟨rfl, hcontent⟩ := Prod.mk.inj heq
    obtain rfl := Node.file.inj hcontent
    refine ⟨entry, hentry, fun name hname => ?_, fun text htext => ?_⟩
    · have hplace := FileSystem.reverse_of_locate hloc
      rw [Path.walk_of_fileName? hname] at hplace
      exact (List.cons.inj hplace).1.symm
    · obtain ⟨bytes, hread, hdecode⟩ := FileSystem.bind_eq_ok_iff.1 htext
      obtain rfl := Except.ok.inj (hbytes.symm.trans hread)
      cases hfound : Utf8.decode? (Utf8.encode entry.2.toList) with
      | none =>
        rw [hfound] at hdecode
        cases hdecode
      | some found =>
        rw [hfound] at hdecode
        rw [Except.ok.inj hdecode]

/-- All that a text can be read as, one for each kind of file. -/
def Source.readings (text : Text) : List Source :=
  [⟨"a.html".toList⟩, ⟨"a.vue".toList⟩, ⟨"a.js".toList⟩].filterMap fun path =>
    (Source.read path text).source.toOption

/-- What a file brings into a build is among all that its text can be read as. -/
theorem Source.mem_readings {source : Source} {text : Text}
    (h : (read path text).source = .ok source) : source ∈ readings text := by
  have hkind : ∃ p ∈ [(⟨"a.html".toList⟩ : Path), ⟨"a.vue".toList⟩, ⟨"a.js".toList⟩],
      FileKind.ofPath path = FileKind.ofPath p := by
    cases FileKind.ofPath path <;> decide
  obtain ⟨p, hp, hkind⟩ := hkind
  refine List.mem_filterMap.2 ⟨p, hp, ?_⟩
  rw [read_eq_ok_of_kind hkind h]
  rfl

/-- A small file system keeps templates apart if its names do, and all that its texts can be read
as. -/
theorem TemplatesApart.of_entries {entries : List (String × String)}
    (hnames : ∀ entry ∈ entries, entry.1.toList.all ScriptBundle.isTargetChar = true ∧
      Source.templateEnding.isSuffixOf entry.1.toList = false)
    (hsources : ∀ entry ∈ entries, ∀ text ∈ Utf8.decode? (Utf8.encode entry.2.toList),
      ∀ source ∈ Source.readings text,
        Token.OptionFree (source.opening.flatMap Piece.tokens) ∧
          Token.OptionFree (source.closing.flatMap Piece.tokens) ∧
          ∀ call ∈ (source.spans []).filterMap Span.call?, ∃ name ∈ Path.fileName? ⟨call.target⟩,
            Source.templateEnding.isSuffixOf name = false) :
    TemplatesApart (sampleFiles entries) where
  isTargetChar := fun p name hfile _ hname => by
    obtain ⟨entry, hentry, hnamed, -⟩ := exists_entry_of_isFile hfile
    rw [hnamed name hname]
    exact List.all_eq_true.1 (hnames entry hentry).1
  file_ending := fun p hfile => by
    obtain ⟨entry, hentry, hnamed, -⟩ := exists_entry_of_isFile hfile
    unfold Path.nameEndsWith
    split
    · next name hname =>
      rw [hnamed name hname]
      exact (hnames entry hentry).2
    · rfl
  target_ending := fun p source call hof hcall => by
    obtain ⟨hfile, text, htext, hsource⟩ := hof
    obtain ⟨entry, hentry, -, hread⟩ := exists_entry_of_isFile hfile
    obtain ⟨-, -, htargets⟩ := hsources entry hentry text (hread text htext) source
      (Source.mem_readings hsource)
    obtain ⟨name, hname, hending⟩ := htargets call (List.mem_filterMap.2 ⟨_, hcall, rfl⟩)
    have hjoined : (Lookup.targetPath p call.target).fileName? = some name :=
      Path.fileName?_join p.directory hname
    rw [Path.nameEndsWith, Path.fileName?_folded hjoined]
    exact hending
  optionFree := fun p source hof => by
    obtain ⟨hfile, text, htext, hsource⟩ := hof
    obtain ⟨entry, hentry, -, hread⟩ := exists_entry_of_isFile hfile
    obtain ⟨hopening, hclosing, -⟩ := hsources entry hentry text (hread text htext) source
      (Source.mem_readings hsource)
    exact ⟨hopening, hclosing⟩

/-- The small tree keeps templates apart. -/
theorem templatesApart_sampleTree : TemplatesApart sampleTree :=
  .of_entries (by decide +kernel) (by decide +kernel)

namespace Linker

/-- In the small build, the graph with a compiler is what compiling makes of the one without. -/
theorem compilesTo_sampleTree :
    TemplatesApart sampleTree ∧ (Compiler.framing [] [] []).EndsWell sampleTree ∧
      sampleGraph.CompilesTo (Compiler.framing [] [] []) sampleTree compiledGraph := by
  have hcompiler : (Compiler.framing [] [] []).EndsWell sampleTree := fun markup => ⟨_, rfl⟩
  have hgraph : (compilingLinker.graph sampleTree ⟨"a.js".toList⟩).1 = .ok compiledGraph := by
    decide +kernel
  obtain ⟨-, hcompiles⟩ := graph_compilesTo templatesApart_sampleTree hcompiler
    sampleLinker.lookup ⟨"a.js".toList⟩
  exact ⟨templatesApart_sampleTree, hcompiler, (hcompiles _ _ graph_sampleTree hgraph).1⟩

/-- A compiler that never fails, but takes a file away. -/
def erasingCompiler : Compiler := fun markup => do
  modify (·.erase ["d.html".toList])
  return ⟨markup, []⟩

/-- A compiler that takes files away can make a build fail, also if it never fails itself. -/
theorem compiling_fails_erasingCompiler :
    TemplatesApart sampleTree ∧
      (∀ files markup, ∃ functions,
        ((erasingCompiler markup).run.run files).1 = .ok functions) ∧
      (sampleLinker.graph sampleTree ⟨"a.js".toList⟩).1 = .ok sampleGraph ∧
      (Linker.graph ⟨sampleLinker.lookup, some erasingCompiler⟩ sampleTree ⟨"a.js".toList⟩).1 =
        .error (.unresolved "./d.html".toList ⟨"b.js".toList⟩) :=
  ⟨templatesApart_sampleTree, fun _ _ => ⟨_, rfl⟩, graph_sampleTree, by decide +kernel⟩

end Linker

end ScriptBundle
