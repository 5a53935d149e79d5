/-
# Markup that is exported

Markup comes into a graph as a string: a file of markup becomes a module that exports its text, and
without a compiler the template of a component becomes a module that exports its markup.  A script that
reads the string gets what was in the file.

## Main content

- `Linker.IsFileModule.text_of_markup`: the module of a file of markup exports its text.
- `Linker.IsTemplateModule.exists_component`: the module of a template exports the markup of a component.
- `Linker.exports_unchanged`: what the literals in a graph stand for.
-/
import ScriptBundle.Proofs.Build.Ending
import ScriptBundle.Proofs.Build.Templates

namespace ScriptBundle

/-- The template of a source is that of its component. -/
theorem Source.exists_component_of_template {file : Path} {text markup : Text} {source : Source}
    (h : (read file text).source = .ok source) (htemplate : source.template = some markup) :
    ∃ component, (Component.takeApart text).rest = .ok component ∧
      component.template = some markup := by
  have hkind := ofPath_of_isComponent (isComponent_of_template h htemplate)
  rw [read, hkind] at h
  simp only [readComponent] at h
  cases hrest : (Component.takeApart text).rest with
  | error defect =>
    rw [hrest] at h
    cases h
  | ok component =>
    rw [hrest] at h
    simp only [ofComponent] at h
    refine ⟨component, rfl, ?_⟩
    split at h
    · split at h
      · cases h
      · next found hfound =>
        cases h
        exact hfound.trans htemplate
    · cases h
      cases htemplate

/-- The module of a template has not the name of a file of markup. -/
theorem Source.ofPath_templatePath_ne_markup (file : Path) :
    FileKind.ofPath (templatePath file) ≠ .markup := by
  have hextension : (templatePath file).hasExtension "html".toList = false := by
    rw [Path.hasExtension, fileName?_templatePath, Bool.and_eq_false_imp, templateName]
    intro hends
    rw [Bool.and_eq_true, List.isSuffixOf_iff_suffix] at hends
    -- no name has both endings
    have hsuffix := List.suffix_of_suffix_length_le hends.1
      (List.suffix_append (file.fileName?.getD []) ".template".toList) (by decide)
    revert hsuffix
    decide
  rw [FileKind.ofPath, hextension]
  split
  · contradiction
  · split <;> decide

namespace Linker

variable {l : Linker} {files : FileSystem} {root : Path} {m : Module} {spans : List Span}

/-- The module of a file of markup exports its text, whether templates are compiled or not. -/
theorem IsFileModule.text_of_markup (h : l.IsFileModule files root m spans)
    (hkind : FileKind.ofPath m.path = .markup) :
    ∃ now text, l.Becomes files now ∧ now.readText m.path = .ok text ∧
      m.text = Literal.exportText text := by
  obtain ⟨now, text, source, filling, hnow, hreads, rfl⟩ := h.reads
  refine ⟨now, text, hnow, hreads.text_eq, ?_⟩
  have hfills := hreads.fills
  obtain ⟨htemplate, hnone⟩ := Source.require_not_mem_spans_of_markup hkind hreads.source_eq
  rw [htemplate] at hfills
  cases hfills
  have hsource := hreads.source_eq
  rw [Source.read, hkind] at hsource
  obtain rfl := Except.ok.inj hsource
  rw [h.text_of_partsOf (Part.ofSpans_of_require_not_mem hnone _), Source.spans, Span.text_ofPieces]
  exact List.append_nil _

/-- The module of a template exports the markup of a component that the build enters. -/
theorem IsTemplateModule.exists_component (h : l.IsTemplateModule files root m) :
    ∃ s file text component markup, l.Enters files root s file ∧ s.files.readText file = .ok text ∧
      (Component.takeApart text).rest = .ok component ∧ component.template = some markup ∧
      m.path = Source.templatePath file ∧ m.text = Literal.exportText markup := by
  obtain ⟨s, file, markup, ⟨-, henters, text, source, filling, hreads, htemplate⟩, rfl⟩ := h
  obtain ⟨component, hrest, hmarkup⟩ :=
    Source.exists_component_of_template hreads.source_eq htemplate
  exact ⟨s, file, text, component, markup, henters, hreads.text_eq, hrest, hmarkup, rfl, rfl⟩

/-- What is written for a text inside a literal is read back as this text, whatever stands behind the
closing quote.  It has no line break in it, different texts are written differently, and the script that
exports a text is read as exporting it.  In every graph, the modules of files of markup export the texts of
their files, and those of templates export the markup of their components. -/
theorem exports_unchanged :
    (∀ s rest, Literal.read? (Literal.escape s ++ '"' :: rest) = some (s, rest)) ∧
    (∀ s, ∀ b ∈ Literal.lineBreaks, b ∉ Literal.escape s) ∧
    Function.Injective Literal.escape ∧
    (∀ s, Literal.exported? (Literal.exportText s) = some s) ∧
    ∀ (l : Linker) (files : FileSystem) (root : Path) (g : ModuleGraph),
      (l.graph files root).1 = .ok g →
      (∀ m ∈ g.modules, (∃ spans, l.IsFileModule files root m spans) ∨
        l.IsTemplateModule files root m) ∧
      (∀ m ∈ g.modules, FileKind.ofPath m.path = .markup →
        ∃ now text, l.Becomes files now ∧ now.readText m.path = .ok text ∧
          Literal.exported? m.text = some text) ∧
      (∀ m, l.IsTemplateModule files root m → m ∈ g.modules ∧
        ∃ s file text component markup, l.Enters files root s file ∧
          s.files.readText file = .ok text ∧ (Component.takeApart text).rest = .ok component ∧
          component.template = some markup ∧ m.path = Source.templatePath file ∧
          Literal.exported? m.text = some markup) := by
  refine ⟨Literal.read?_escape, fun s b hb => Literal.lineBreak_not_mem_escape hb s,
    Literal.escape_injective, Literal.exported?_exportText, fun l files root g hgraph => ?_⟩
  obtain ⟨final, hfinal, rfl⟩ := completes_of_graph hgraph
  refine ⟨fun m hm => hfinal.origin hm, fun m hm hkind => ?_,
    fun m htemplate => ⟨htemplate.mem hfinal, ?_⟩⟩
  · rcases hfinal.origin hm with ⟨spans, hfile⟩ | htemplate
    · obtain ⟨now, text, hnow, hread, htext⟩ := hfile.text_of_markup hkind
      exact ⟨now, text, hnow, hread, htext ▸ Literal.exported?_exportText text⟩
    · obtain ⟨s, file, markup, -, rfl⟩ := htemplate
      exact absurd hkind (Source.ofPath_templatePath_ne_markup file)
  · obtain ⟨s, file, text, component, markup, henters, hread, hrest, hmarkup, hpath, htext⟩ :=
      htemplate.exists_component
    exact ⟨s, file, text, component, markup, henters, hread, hrest, hmarkup, hpath,
      htext ▸ Literal.exported?_exportText markup⟩

/-- In the small build, the file of markup and the template of the component are exported. -/
theorem exports_sampleTree :
    (sampleLinker.graph sampleTree ⟨"a.js".toList⟩).1 = .ok sampleGraph ∧
      (∃ m ∈ sampleGraph.modules, FileKind.ofPath m.path = .markup ∧
        Literal.exported? m.text = some "<p>\n".toList) ∧
      ∃ m ∈ sampleGraph.modules, sampleLinker.IsTemplateModule sampleTree ⟨"a.js".toList⟩ m ∧
        ∃ file text component, sampleTree.readText file = .ok text ∧
          (Component.takeApart text).rest = .ok component ∧
          Literal.exported? m.text = component.template := by
  obtain ⟨-, -, -, -, hgraphs⟩ := exports_unchanged
  obtain ⟨horigins, hmarkup, htemplates⟩ := hgraphs _ _ _ _ graph_sampleTree
  have hkeeps := keepsFiles_of_compiler_eq_none (l := sampleLinker) rfl sampleTree
  have hfile := List.mem_of_getElem? (rfl : sampleGraph.modules[1]? = some _)
  have htemplate := List.mem_of_getElem? (rfl : sampleGraph.modules[0]? = some _)
  have hkind : FileKind.ofPath ⟨"d.html".toList⟩ = .markup := by decide
  refine ⟨graph_sampleTree, ⟨_, hfile, hkind, ?_⟩, ⟨_, htemplate, ?_⟩⟩
  · obtain ⟨now, text, hnow, hread, hexported⟩ := hmarkup _ hfile hkind
    obtain rfl := hkeeps.eq_of_becomes hnow
    have hfound : sampleTree.readText ⟨"d.html".toList⟩ = .ok "<p>\n".toList := by decide +kernel
    cases hfound.symm.trans hread
    exact hexported
  · rcases horigins _ htemplate with ⟨spans, hread⟩ | horigin
    · -- there is no file with the name of the template
      obtain ⟨now, text, source, filling, hnow, hreads, -⟩ := hread.reads
      obtain rfl := hkeeps.eq_of_becomes hnow
      have hmissing : sampleTree.readText ⟨"c.vue.template".toList⟩ = .error .notFound := by
        decide +kernel
      cases hmissing.symm.trans hreads.text_eq
    · obtain ⟨-, s, file, text, component, markup, henters, hread, hrest, hcomponent, -, hexported⟩ :=
        htemplates _ horigin
      rw [henters.files_eq hkeeps] at hread
      exact ⟨horigin, file, text, component, hread, hrest, hexported.trans hcomponent.symm⟩

end Linker

end ScriptBundle
