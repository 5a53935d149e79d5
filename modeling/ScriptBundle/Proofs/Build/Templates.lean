/-
# Templates that are loaded

Without a compiler the template of a component becomes a module, and a line that requires it is put
into the script of the component.  The line is read as any other one.  So the component depends on
its template exactly if the name of the template has target characters only: a file name with
another character is written into the line, but no call is recognized there.

## Main content

- `Source.call_mem_templateReference`: the line has a call if all characters of the name are target
  characters.
- `Linker.HoldsTemplate` says that a table has the template of a component, and
  `Linker.Links.holdsTemplate` that it keeps it while parts are linked.
- `Linker.records_template_iff`: which components depend on their templates, and what they depend on
  then.
-/
import ScriptBundle.Proofs.Build.Calls
import ScriptBundle.Proofs.Build.Reachability
import ScriptBundle.Proofs.FileSystem.Location
import ScriptBundle.Proofs.Path.Name

namespace ScriptBundle

variable {p q component : Path} {name text : Text}

/-! ## Paths of templates -/

namespace Source

/-- What stands behind the file name of a component in the name of its template. -/
theorem isPlain_templateEnding : Path.IsPlain ".template".toList :=
  ⟨by decide, 't', by decide, by decide⟩

/-- The name of a template begins with that of its component. -/
theorem templateName_eq (h : component.fileName? = some name) :
    templateName component = name ++ ".template".toList := by
  rw [templateName, h, Option.getD_some]

/-- The name of a template is one. -/
theorem isName_templateName (component : Path) : Path.IsName (templateName component) := by
  cases h : component.fileName? with
  | none =>
    rw [templateName, h]
    exact isPlain_templateEnding.isName [] List.not_mem_nil
  | some name =>
    rw [templateName_eq h]
    exact isPlain_templateEnding.isName name (Path.isName_of_fileName? h).1

/-- The name of a template has target characters only if that of its component does. -/
theorem isTargetChar_templateName (h : component.fileName? = some name)
    (hchars : ∀ c ∈ name, isTargetChar c) : ∀ c ∈ templateName component, isTargetChar c := by
  rw [templateName_eq h]
  intro c hc
  rcases List.mem_append.1 hc with hfront | hback
  · exact hchars c hfront
  · exact List.all_eq_true.1 (rfl : ".template".toList.all isTargetChar = true) c hback

/-- The file name in the path of a template is the name of the template. -/
theorem fileName?_templatePath (component : Path) :
    (templatePath component).fileName? = some (templateName component) := by
  apply Path.fileName?_folded
  rw [Path.fileName?_eq_some_iff]
  exact ⟨_, (isName_templateName component).components_join _⟩

/-- The path of a template leads to its name, beside the component. -/
theorem walk_templatePath (component : Path) (directory : List Text) :
    (templatePath component).walk directory =
      templateName component :: component.directory.walk directory := by
  rw [templatePath, Path.walk_folded, (isName_templateName component).walk_join]

/-- Components whose templates have the same path lead to the same place. -/
theorem walk_eq_of_same_templatePath {name' : Text} (hp : p.fileName? = some name)
    (hq : q.fileName? = some name') (h : (templatePath p).same (templatePath q) = true)
    (directory : List Text) : p.walk directory = q.walk directory := by
  have hwalk := Path.walk_eq_of_same h directory
  rw [walk_templatePath, walk_templatePath, templateName_eq hp, templateName_eq hq] at hwalk
  obtain ⟨hname, hdirectory⟩ := List.cons.inj hwalk
  rw [Path.walk_of_fileName? hp, Path.walk_of_fileName? hq, List.append_cancel_right hname,
    hdirectory]

/-! ## Reading components -/

/-- A component has a file name. -/
theorem exists_fileName? (h : Component.isComponent p = true) : ∃ name, p.fileName? = some name := by
  rw [Component.isComponent, Path.nameEndsWith] at h
  split at h
  · next name hname => exact ⟨name, hname⟩
  · cases h

/-- A component is read as one. -/
theorem ofPath_of_isComponent (h : Component.isComponent p = true) :
    FileKind.ofPath p = .component := by
  have hmarkup : p.hasExtension "html".toList = false := by
    obtain ⟨name, hname⟩ := exists_fileName? h
    rw [Component.isComponent, Path.nameEndsWith, hname] at h
    rw [Path.hasExtension, hname]
    -- no name has both endings
    simp only [Bool.and_eq_false_imp]
    intro hsuffix
    exfalso
    have hends := List.suffix_of_suffix_length_le (List.isSuffixOf_iff_suffix.1 h)
      (List.isSuffixOf_iff_suffix.1 (Bool.and_eq_true_iff.1 hsuffix).1) (by decide)
    revert hends
    decide
  rw [FileKind.ofPath, hmarkup, h]
  rfl

/-- What has a template is a component. -/
theorem isComponent_of_template {source : Source} {markup : Text}
    (h : (read p text).source = .ok source) (htemplate : source.template = some markup) :
    Component.isComponent p = true := by
  have hkind : FileKind.ofPath p = .component := by
    cases hkind : FileKind.ofPath p with
    | component => rfl
    | markup =>
      rw [read, hkind] at h
      obtain rfl := Except.ok.inj h
      cases htemplate
    | script =>
      rw [read, hkind] at h
      obtain rfl := Except.ok.inj h
      cases htemplate
  unfold FileKind.ofPath at hkind
  split at hkind
  · cases hkind
  · split at hkind
    · assumption
    · cases hkind

/-- A component with a slot has a template, if it can be read. -/
theorem template_of_hasSlot {source : Source} {parts : Component}
    (hp : Component.isComponent p = true) (hrest : (Component.takeApart text).rest = .ok parts)
    (hslot : parts.hasSlot = true) (h : (read p text).source = .ok source) :
    ∃ markup, parts.template = some markup ∧ source.template = some markup := by
  rw [read, ofPath_of_isComponent hp] at h
  simp only [readComponent, hrest, ofComponent, hslot, if_true] at h
  cases htemplate : parts.template with
  | none =>
    rw [htemplate] at h
    cases h
  | some markup =>
    rw [htemplate] at h
    cases h
    exact ⟨markup, rfl, rfl⟩

/-! ## The reference to a template -/

/-- If all characters of its name are target characters, the line that refers to a template is read as
an option with a call of this name. -/
theorem tokens_templateReference (h : ∀ c ∈ templateName component, isTargetChar c) :
    ∃ call, call.target = templateName component ∧
      (Piece.line (templateReference component)).tokens =
        Part.templateOption.map Token.char ++ [.call call, .char ','] := by
  have hcomment : isLineComment (templateReference component) = false := rfl
  have hreference : templateReference component = Part.templateOption ++
      (Call.opening ++ '\'' :: templateName component ++ ['\'', ')'] ++ [',']) := by
    simp [templateReference, Call.opening]
  let call : Call := ⟨templateName component, Call.write '\'' (templateName component) '\'' false⟩
  have hcall : Call.at? (Call.opening ++ '\'' :: call.target ++ ['\'', ')'] ++ [',']) = some call :=
    Call.at?_eq_some_iff.2 ⟨'\'', '\'', [','], rfl, rfl, by simp [call, templateName], h, rfl, rfl⟩
  have hrest : (Call.opening ++ '\'' :: call.target ++ ['\'', ')'] ++ [',']).drop call.text.length =
      [','] := by
    simp [call, Call.write]
  refine ⟨call, rfl, ?_⟩
  rw [Piece.tokens, hcomment, if_neg Bool.false_ne_true, hreference,
    tokens_append_of_not_mem (by decide), tokens_of_call hcall, hrest]
  rfl

/-- If all characters of its name are target characters, the line that refers to a template has a
call with this name. -/
theorem call_mem_templateReference (h : ∀ c ∈ templateName component, isTargetChar c) :
    ∃ call, call.target = templateName component ∧
      .call call ∈ (Piece.line (templateReference component)).tokens := by
  obtain ⟨call, htarget, htokens⟩ := tokens_templateReference h
  refine ⟨call, htarget, ?_⟩
  rw [htokens]
  exact List.mem_append_right _ (List.mem_cons_self ..)

end Source

namespace Linker

variable {l : Linker} {files : FileSystem} {root file : Path} {s s₁ s' t : BuildState} {m : Module}
  {markup : Text} {table : ModuleTable}

/-! ## Templates in the table -/

/-- A file has a template in its slot. -/
def HasTemplate (files : FileSystem) (component : Path) (markup : Text) : Prop :=
  ∃ text source, files.readText component = .ok text ∧
    (Source.read component text).source = .ok source ∧ source.template = some markup

/-- A table holds the template of a component: under the path of the template stands a module that
exports the markup and requires nothing. -/
def HoldsTemplate (table : ModuleTable) (component : Path) (markup : Text) : Prop :=
  ∃ dep, table.find? (Source.templatePath component) = some dep ∧
    dep.text = Literal.exportText markup ∧ dep.dependencies = []

/-- Templates with the same path have the same markup. -/
theorem HasTemplate.eq_of_same {markup' : Text} (hp : HasTemplate files p markup)
    (hq : HasTemplate files q markup')
    (h : (Source.templatePath p).same (Source.templatePath q) = true) : markup = markup' := by
  obtain ⟨text, source, htext, hsource, htemplate⟩ := hp
  obtain ⟨text', source', htext', hsource', htemplate'⟩ := hq
  have hcomponent := Source.isComponent_of_template hsource htemplate
  have hcomponent' := Source.isComponent_of_template hsource' htemplate'
  -- both are the same file, so they have the same text
  obtain ⟨name, hname⟩ := Source.exists_fileName? hcomponent
  obtain ⟨name', hname'⟩ := Source.exists_fileName? hcomponent'
  have hwalk := Source.walk_eq_of_same_templatePath hname hname' h files.cwd.reverse
  obtain rfl := FileSystem.readText_eq_of_walk hwalk htext htext'
  have hkind : FileKind.ofPath p = FileKind.ofPath q := by
    rw [Source.ofPath_of_isComponent hcomponent, Source.ofPath_of_isComponent hcomponent']
  have hread := Source.read_eq_ok_of_kind hkind hsource
  obtain rfl := Except.ok.inj (hread.symm.trans hsource')
  exact Option.some.inj (htemplate.symm.trans htemplate')

/-- A new module keeps a template in the table, unless it takes its path with something else. -/
theorem HoldsTemplate.add (h : HoldsTemplate table component markup) (htable : table.Consistent)
    {path : Path} {text : Text} {dependencies : Dependencies}
    (hadd : path.same (Source.templatePath component) = true →
      text = Literal.exportText markup ∧ dependencies = []) :
    HoldsTemplate (table.add path text dependencies) component markup := by
  obtain ⟨dep, hfound, hdep⟩ := h
  unfold HoldsTemplate
  rw [htable.find?_add]
  split
  · next hsame => exact ⟨_, rfl, hadd hsame⟩
  · exact ⟨dep, hfound, hdep⟩

/-- Opening a file keeps a template in the table. -/
theorem Opens.holdsTemplate {spans : List Span} (hopens : l.Opens s file spans s₁)
    (htable : s.table.Consistent) (hhas : HasTemplate s.files component markup)
    (h : HoldsTemplate s.table component markup) : HoldsTemplate s₁.table component markup := by
  cases hopens with
  | @intro text source filling hreads =>
    show HoldsTemplate (l.tableAfter s.table file source.template) component markup
    unfold tableAfter
    split
    · exact h
    · next other hother =>
      split
      · -- another template at this path is that of the same file
        refine h.add htable fun hsame => ⟨?_, rfl⟩
        have hfile : HasTemplate s.files file other :=
          ⟨text, source, hreads.text_eq, hreads.source_eq, hother⟩
        rw [hfile.eq_of_same hhas hsame]
      · exact h

/-- A component that is opened has its template in the table. -/
theorem Opens.holdsTemplate_self {spans : List Span} (hopens : l.Opens s component spans s₁)
    (hcompiler : l.compiler = none) (hhas : HasTemplate s.files component markup) :
    HoldsTemplate s₁.table component markup := by
  obtain ⟨text, source, htext, hsource, htemplate⟩ := hhas
  cases hopens with
  | @intro text' source' filling hreads =>
    obtain rfl := Except.ok.inj (htext.symm.trans hreads.text_eq)
    obtain rfl := Except.ok.inj (hsource.symm.trans hreads.source_eq)
    show HoldsTemplate (l.tableAfter s.table component source.template) component markup
    simp only [tableAfter, htemplate, hcompiler]
    exact ⟨_, ModuleTable.find?_add_self .., rfl, rfl⟩

/-- Linking parts keeps a template in the table. -/
theorem Links.holdsTemplate {parts : List Part} {linked : List Linked}
    (hlinks : l.Links s file parts linked s') (hkeeps : ∀ files, l.KeepsFiles files)
    (htable : s.table.Consistent) (hhas : HasTemplate s.files component markup)
    (h : HoldsTemplate s.table component markup) : HoldsTemplate s'.table component markup := by
  induction hlinks with
  | nil => exact h
  | settle hpart _ ih =>
    obtain ⟨changed, hchanged, rfl⟩ := hpart.state
    obtain rfl := (hkeeps _).eq_of_becomes hchanged
    exact ih htable hhas h
  | @enter s s₁ s₂ s' file path call spans parts inner linked hdest hnew hopens hinner hparts ihinner
    ihparts =>
    have hopened := (hkeeps _).eq_of_becomes hopens.grows.files
    have hlinked := (hkeeps _).eq_of_becomes hinner.grows.files
    have htable₁ := hopens.consistent htable
    have htable₂ := hinner.consistent htable₁
    have hinnerholds : HoldsTemplate s₂.table component markup :=
      ihinner htable₁ (hopened.symm ▸ hhas) (hopens.holdsTemplate htable hhas h)
    have hfiles : (s₂.close path inner).files = s.files := hlinked.trans hopened
    refine ihparts (consistent_close htable₂ inner) (hfiles.symm ▸ hhas) ?_
    -- the file that is closed was new, so it does not have the path of the template
    refine hinnerholds.add htable₂ fun hsame => ?_
    obtain ⟨dep, hfound, -⟩ := h
    rw [← ModuleTable.find?_eq_of_same _ hsame, hnew.1] at hfound
    cases hfound

/-- At all calls of a component its template is in the table. -/
theorem AtCall.holdsTemplate {call : Call} (hcall : l.AtCall files root m t call)
    (hcompiler : l.compiler = none) (hhas : HasTemplate files m.path markup) :
    HoldsTemplate t.table m.path markup := by
  have hkeeps := keepsFiles_of_compiler_eq_none hcompiler
  obtain ⟨s, s₁, spans, front, back, linked, linked', s', henters, hopens, -, hfront, -, -⟩ := hcall
  have hfiles := henters.files_eq (hkeeps files)
  have hopened := (hkeeps _).eq_of_becomes hopens.grows.files
  rw [← hfiles] at hhas
  exact hfront.holdsTemplate hkeeps (hopens.consistent henters.consistent) (hopened.symm ▸ hhas)
    (hopens.holdsTemplate_self hcompiler hhas)

/-! ## Components and their templates -/

/-- If all characters of its name are target characters, a component requires its template. -/
theorem Reads.exists_follow_template {source : Source} {filling : List Piece}
    (hreads : l.Reads files component text source filling) (hcompiler : l.compiler = none)
    (htemplate : source.template = some markup)
    (hchars : ∀ c ∈ Source.templateName component, isTargetChar c) :
    ∃ call, call.target = Source.templateName component ∧
      .follow call ∈ l.partsOf (source.spans filling) := by
  have hfilling : filling = [.line (Source.templateReference component)] := by
    have hfills := hreads.fills
    rw [htemplate] at hfills
    exact hfills.unique (.reference hcompiler)
  obtain ⟨call, htarget, htoken⟩ := Source.call_mem_templateReference hchars
  refine ⟨call, htarget, ?_⟩
  rw [partsOf, hcompiler]
  exact Part.follow_mem_ofSpans_iff.2
    (Span.require_mem_ofPieces_iff.2 ⟨_, by simp [hfilling], htoken⟩)

/-- Modules of components are those of files: the file name of a template has another ending. -/
theorem Completes.isFileModule_of_isComponent {final : BuildState}
    (hfinal : l.Completes files root final) (hm : m ∈ final.table.modules)
    (hcomponent : Component.isComponent m.path = true) :
    ∃ spans, l.IsFileModule files root m spans := by
  rcases hfinal.origin hm with hfile | ⟨s, component, markup, -, rfl⟩
  · exact hfile
  · exfalso
    rw [Component.isComponent, Path.nameEndsWith, Source.fileName?_templatePath] at hcomponent
    have hends := List.suffix_of_suffix_length_le (List.isSuffixOf_iff_suffix.1 hcomponent)
      (List.suffix_append _ _) (by decide)
    revert hends
    decide

/-- In a build without a compiler, a component with a slot depends on its template exactly if all
characters of its file name are target characters.  What is recorded then is a module at the path of
the template, which exports the markup and requires nothing. -/
theorem records_template_iff {g : ModuleGraph} (hcompiler : l.compiler = none)
    (h : (l.graph files root).1 = .ok g) (hm : m ∈ g.modules)
    (hcomponent : Component.isComponent m.path = true) (hname : m.path.fileName? = some name)
    {parts : Component} (htext : files.readText m.path = .ok text)
    (hrest : (Component.takeApart text).rest = .ok parts) (hslot : parts.hasSlot = true) :
    ∃ markup, parts.template = some markup ∧
      ((∃ number, (name ++ ".template".toList, number) ∈ m.dependencies) ↔
        ∀ c ∈ name, isTargetChar c) ∧
      ∀ number, (name ++ ".template".toList, number) ∈ m.dependencies →
        ∃ dep ∈ g.modules, dep.number = number ∧
          dep.path.same (Source.templatePath m.path) = true ∧
          dep.text = Literal.exportText markup ∧ dep.dependencies = [] := by
  obtain ⟨final, hfinal, rfl⟩ := completes_of_graph h
  obtain ⟨spans, hfile⟩ := hfinal.isFileModule_of_isComponent hm hcomponent
  obtain ⟨now, text', source, filling, hbecomes, hreads, rfl⟩ := hfile.reads
  obtain rfl := (keepsFiles_of_compiler_eq_none hcompiler files).eq_of_becomes hbecomes
  obtain rfl := Except.ok.inj (htext.symm.trans hreads.text_eq)
  obtain ⟨markup, hmarkup, htemplate⟩ :=
    Source.template_of_hasSlot hcomponent hrest hslot hreads.source_eq
  have hhas : HasTemplate now m.path markup :=
    ⟨text, source, htext, hreads.source_eq, htemplate⟩
  -- at every call of the template, the template is complete at the path of the target
  have hcomplete {t : BuildState} {call : Call} (hcall : l.AtCall now root m t call)
      (htarget : call.target = Source.templateName m.path) :
      ∃ dep, t.table.find? (Lookup.targetPath m.path call.target).folded = some dep ∧
        dep.text = Literal.exportText markup ∧ dep.dependencies = [] := by
    rw [htarget]
    exact hcall.holdsTemplate hcompiler hhas
  rw [← Source.templateName_eq hname]
  refine ⟨markup, hmarkup, ⟨?_, ?_⟩, ?_⟩
  · -- what is recorded was found, so the name was
    rintro ⟨number, hmem⟩ c hc
    apply hfile.isTargetChar_of_mem hmem
    rw [Source.templateName_eq hname]
    exact List.mem_append_left _ hc
  · -- the line in the slot has a call, which is followed
    intro hchars
    have hall := Source.isTargetChar_templateName hname hchars
    obtain ⟨call, htarget, hfollow⟩ := hreads.exists_follow_template hcompiler htemplate hall
    obtain ⟨t, hcall⟩ := hfile.atCall_of_mem hfollow
    obtain ⟨dep, hfound, -⟩ := hcomplete hcall htarget
    exact CompleteAt.exists_mem_dependencies ⟨t, call, hcall, htarget, htarget ▸ hfound⟩
  · intro number hmem
    obtain ⟨t, call, link, u, hcall, htarget, hlinks, hdependency⟩ := hfile.exists_atCall hmem
    obtain ⟨dep, hfound, hdep⟩ := hcomplete hcall htarget
    have hnumber := hdependency.symm.trans (hlinks.dependency_of_find? hfound)
    obtain ⟨hmodule, hsame⟩ :=
      CompleteAt.mem ⟨t, call, hcall, htarget, htarget ▸ hfound⟩ hfinal
    exact ⟨dep, hmodule, (Prod.mk.inj (Option.some.inj hnumber)).2.symm, hsame, hdep⟩

/-- The component of the small build depends on its template. -/
theorem records_template_sampleTree :
    (sampleLinker.graph sampleTree ⟨"a.js".toList⟩).1 = .ok sampleGraph ∧
      ∃ m dep, sampleGraph.modules[3]? = some m ∧ dep ∈ sampleGraph.modules ∧
        ("c.vue.template".toList, dep.number) ∈ m.dependencies ∧
        dep.text = Literal.exportText "<b>\n".toList := by
  have hm := List.mem_of_getElem? (rfl : sampleGraph.modules[3]? = some _)
  have htext : sampleTree.readText ⟨"c.vue".toList⟩ = .ok
      ("<template>\n<b>\n</template>\n<script>\nrequire('./b');\nmodule.exports = \x7b\n\x7d;\n"
        ).toList := by
    decide +kernel
  obtain ⟨markup, hmarkup, hiff, hdep⟩ :=
    records_template_iff rfl graph_sampleTree hm rfl rfl htext rfl rfl
  obtain rfl := Option.some.inj hmarkup
  obtain ⟨number, hnumber⟩ := hiff.2 (List.all_eq_true.1 (rfl : "c.vue".toList.all isTargetChar = true))
  obtain ⟨dep, hmem, rfl, -, hexport, -⟩ := hdep number hnumber
  exact ⟨graph_sampleTree, _, dep, rfl, hmem, hnumber, hexport⟩

end Linker

/-! ## A template that is not loaded -/

/-- A component with a blank in its file name. -/
def blankTree : FileSystem :=
  sampleFiles
    [("my app.vue",
      "<template>\n<p></p>\n</template>\n<script>\nmodule.exports = \x7b\n\x7d;\n</script>\n")]

/-- The graph of this component.  The template is there, and nothing leads to it. -/
def blankGraph : ModuleGraph where
  modules :=
    [⟨1, ⟨"my app.vue.template".toList⟩, "module.exports = \"<p></p>\\n\";\n".toList, []⟩,
      ⟨2, ⟨"my app.vue".toList⟩,
        "module.exports = \x7b\ntemplate: require('my app.vue.template'),\x7d;\n".toList, []⟩]
  entry := 2
  styles := []

/-- A component with a slot need not depend on its template. -/
theorem template_not_recorded :
    (Linker.graph {} blankTree ⟨"my app.vue".toList⟩).1 = .ok blankGraph ∧
      ∃ m ∈ blankGraph.modules, Component.isComponent m.path = true ∧
        (∃ text parts, blankTree.readText m.path = .ok text ∧
          (Component.takeApart text).rest = .ok parts ∧ parts.hasSlot = true) ∧
        ∀ number, ("my app.vue.template".toList, number) ∉ m.dependencies := by
  have hgraph : (Linker.graph {} blankTree ⟨"my app.vue".toList⟩).1 = .ok blankGraph := by
    decide +kernel
  have htext : blankTree.readText ⟨"my app.vue".toList⟩ = .ok
      ("<template>\n<p></p>\n</template>\n<script>\nmodule.exports = \x7b\n\x7d;\n</script>\n"
        ).toList := by
    decide +kernel
  exact ⟨hgraph, _, List.mem_of_getElem? (rfl : blankGraph.modules[1]? = some _), rfl,
    ⟨_, _, htext, rfl, rfl⟩, fun number => List.not_mem_nil⟩

end ScriptBundle
