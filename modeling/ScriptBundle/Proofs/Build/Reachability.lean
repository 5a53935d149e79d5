/-
# Files that are reached

A build has a module for a file exactly if the file can be reached from the root by following calls.
The build takes a short cut: before it looks a target up, it looks for a complete module at the path
as it is written.  This adds no module, because nothing new is entered on it, and it loses none,
because looking the target up would lead to the same file.

## Main content

- `Linker.RequiresFile` is the step from a file to another one, without a table of modules;
  `Linker.AlwaysRequires` is such a step that the compiler cannot change.
- `Linker.Reads.of_same` and `Lookup.destination_eq_of_same`: a file leads to the same files
  under all its spellings.
- `Linker.Enters.reachable`: the files that a build enters can be reached.
- `Linker.IsFileModule.exists_lower`: what a module always requires has a module with a lower
  number.
- `Linker.Completes.reachable` and `Linker.Completes.exists_module`: a file has a module exactly if
  it can be reached.
- `Linker.exists_module_iff_reachable`: the modules of a build without templates are those of the
  files that can be reached, each of them once.
-/
import ScriptBundle.Proofs.Build.Memoization
import ScriptBundle.Proofs.Build.Numbering
import ScriptBundle.Proofs.FileSystem.Spelling

namespace ScriptBundle

/-! ## Spellings of a file -/

section Spelling

variable {p q r : Path}

/-- The kind of a file goes by its name. -/
theorem FileKind.ofPath_eq_of_fileName? (h : p.fileName? = q.fileName?) : ofPath p = ofPath q := by
  have hextension : p.hasExtension "html".toList = q.hasExtension "html".toList := by
    rw [Path.hasExtension, Path.hasExtension, h]
  have hcomponent : Component.isComponent p = Component.isComponent q := by
    rw [Component.isComponent, Component.isComponent, Path.nameEndsWith, Path.nameEndsWith, h]
  rw [ofPath, ofPath, hextension, hcomponent]

/-- The kind of a file goes by its components. -/
theorem FileKind.ofPath_eq_of_same (h : p.same q = true) : ofPath p = ofPath q :=
  ofPath_eq_of_fileName? (Path.fileName?_eq_of_same h)

/-- What is read from a component does not depend on where the component stands. -/
theorem Source.ofComponent_eq_ok {component : Component} {source : Source}
    (h : ofComponent p component = .ok source) : ofComponent q component = .ok source := by
  unfold ofComponent at *
  split at h
  · next hslot =>
    rw [if_pos hslot]
    cases htemplate : component.template with
    | none =>
      rw [htemplate] at h
      cases h
    | some markup =>
      rw [htemplate] at h
      exact h
  · next hslot =>
    rw [if_neg hslot]
    exact h

/-- What a text brings into a build goes by the kind of its file. -/
theorem Source.read_eq_ok_of_kind (h : FileKind.ofPath p = FileKind.ofPath q) {text : Text}
    {source : Source} (hp : (read p text).source = .ok source) :
    (read q text).source = .ok source := by
  unfold read at *
  rw [← h]
  cases hkind : FileKind.ofPath p with
  | markup =>
    rw [hkind] at hp
    exact hp
  | script =>
    rw [hkind] at hp
    exact hp
  | component =>
    simp only [hkind, readComponent] at hp ⊢
    cases hrest : (Component.takeApart text).rest with
    | error defect =>
      rw [hrest] at hp
      cases hp
    | ok component =>
      rw [hrest] at hp
      exact ofComponent_eq_ok hp

/-- The path of a target goes by the components of the file that requires it. -/
theorem Lookup.folded_targetPath_eq_of_same (h : p.same q = true) (target : Text) :
    (targetPath p target).folded = (targetPath q target).folded :=
  Path.folded_eq_of_same (Path.same_join (Path.same_directory h) _)

/-- A target leads to the same file from all spellings of the file that requires it. -/
theorem Lookup.destination_eq_of_same {l : Lookup} {fs : FileSystem} (h : p.same q = true)
    {target : Text} (hp : l.destination fs p target = .ok (.file r)) :
    l.destination fs q target = .ok (.file r) := by
  rw [destination_eq_file_iff, file?] at *
  rwa [← folded_targetPath_eq_of_same h]

/-- A file at the path as it is written is what the path leads to. -/
theorem Lookup.file?_eq_of_isFile {l : Lookup} {fs : FileSystem} (h : fs.isFile p.folded = true) :
    l.file? fs p = some p.folded := by
  have hdirectory : ¬ fs.isDirectory p.folded = true := by
    unfold FileSystem.isFile at h
    unfold FileSystem.isDirectory
    split at h
    · next content hstat => simp [hstat]
    · cases h
  rw [file?, foldedFile?, if_neg hdirectory, if_pos h]

/-- Where a build starts is a file. -/
theorem Lookup.isFile_of_rootFile {l : Lookup} {fs : FileSystem}
    (h : l.rootFile fs p = .ok r) : fs.isFile r = true := by
  unfold rootFile at h
  split at h
  · next hfile =>
    cases h
    exact isFile_of_file? hfile
  · cases h

end Spelling

namespace Linker

variable {l : Linker} {files : FileSystem} {root p q : Path} {s final : BuildState}

/-- A file is read in the same way under all spellings under which there is a text. -/
theorem Reads.of_same (h : p.same q = true) {text text' : Text} {source : Source}
    {filling : List Piece} (hp : l.Reads files p text source filling)
    (htext : files.readText q = .ok text') : l.Reads files q text' source filling := by
  obtain rfl := FileSystem.readText_eq_of_same h hp.text_eq htext
  have hfills : l.Fills files q source.template filling := by
    have hreference : Source.templateReference p = Source.templateReference q := by
      simp only [Source.templateReference, Source.templateName, Path.fileName?_eq_of_same h]
    have hfills := hp.fills
    generalize source.template = template at hfills ⊢
    cases hfills with
    | bare => exact .bare
    | reference hcompiler =>
      rw [hreference]
      exact .reference hcompiler
    | compiled hcompiler hrun => exact .compiled hcompiler hrun
  exact ⟨htext, Source.read_eq_ok_of_kind (FileKind.ofPath_eq_of_same h) hp.source_eq, hfills⟩

/-! ## Files that require files -/

/-- A file leads to another one: a call in its text is not replaced by a template, and looking its
target up gives the other file. -/
def RequiresFile (l : Linker) (files : FileSystem) (p q : Path) : Prop :=
  ∃ text source filling call, l.Reads files p text source filling ∧
    .follow call ∈ l.partsOf (source.spans filling) ∧
    l.lookup.destination files p call.target = .ok (.file q)

/-- A file leads to another one whatever the compiler makes of the files: it always has a text, and
whenever all of it can be read, it has a call whose target leads to the other file in all files that
the compiler can make. -/
def AlwaysRequires (l : Linker) (files : FileSystem) (p q : Path) : Prop :=
  ∀ now, l.Becomes files now → (∃ text, now.readText p = .ok text) ∧
    ∀ text source filling, l.Reads now p text source filling →
      ∃ call, .follow call ∈ l.partsOf (source.spans filling) ∧
        ∀ other, l.Becomes files other →
          ∃ r, l.lookup.destination other p call.target = .ok (.file r) ∧ r.same q = true

/-- While the compiler keeps the files, a file that leads to another one always does. -/
theorem RequiresFile.always (h : l.RequiresFile files p q) (hkeeps : l.KeepsFiles files) :
    l.AlwaysRequires files p q := by
  obtain ⟨text, source, filling, call, hreads, hcall, hlookup⟩ := h
  intro now hnow
  obtain rfl := hkeeps.eq_of_becomes hnow
  refine ⟨⟨text, hreads.text_eq⟩, fun text' source' filling' hreads' => ?_⟩
  obtain ⟨-, rfl, rfl⟩ := hreads.unique hreads'
  refine ⟨call, hcall, fun other hother => ⟨q, ?_, Path.same_refl q⟩⟩
  rw [hkeeps.eq_of_becomes hother]
  exact hlookup

/-- A file can be reached from the root of a build. -/
def Reachable (l : Linker) (files : FileSystem) (root p : Path) : Prop :=
  ∃ start, l.lookup.rootFile files root = .ok start ∧
    Relation.ReflTransGen (l.RequiresFile files) start p

/-- A new file is one that looking the target up gives. -/
theorem lookup_of_isNew {file : Path} {target : Text}
    (hdest : l.destination s file target = .ok (.file p)) (hnew : s.IsNew p) :
    l.lookup.destination s.files file target = .ok (.file p) := by
  rcases eq_or_of_destination_eq hdest with ⟨-, hfound⟩ | hlookup
  · rw [hnew.1] at hfound
    cases hfound
  · exact hlookup

/-- While the compiler keeps the files, they are the first ones when a file is entered. -/
theorem Enters.files_eq (h : l.Enters files root s p) (hkeeps : l.KeepsFiles files) :
    s.files = files :=
  hkeeps.eq_of_becomes h.becomes

/-- The files that a build enters can be reached from its root. -/
theorem Enters.reachable (h : l.Enters files root s p) (hkeeps : l.KeepsFiles files) :
    l.Reachable files root p := by
  induction h with
  | root hroot => exact ⟨_, hroot, .refl⟩
  | @follow s₀ s₁ s₂ file path call spans front back linked hfile hopens hparts hfront hdest hnew
    ih =>
    obtain ⟨start, hstart, hreach⟩ := ih
    have hfiles : s₂.files = files :=
      Enters.files_eq (.follow hfile hopens hparts hfront hdest hnew) hkeeps
    have hfiles₀ : s₀.files = files := hfile.files_eq hkeeps
    have hlookup := lookup_of_isNew hdest hnew
    obtain ⟨hreads⟩ := hopens
    rw [hfiles] at hlookup
    rw [hfiles₀] at hreads
    refine ⟨start, hstart, hreach.tail ⟨_, _, _, call, hreads, ?_, hlookup⟩⟩
    rw [hparts]
    exact List.mem_append_right _ (List.mem_cons_self ..)

/-- What a build enters is a file. -/
theorem Enters.isFile (h : l.Enters files root s p) : s.files.isFile p = true := by
  cases h with
  | root hroot => exact Lookup.isFile_of_rootFile hroot
  | follow _ _ _ _ hdest hnew =>
    exact Lookup.isFile_of_file? (Lookup.destination_eq_file_iff.1 (lookup_of_isNew hdest hnew)).2

/-! ## What a module requires has a module -/

/-- In a build that adds no templates, all modules are those of files. -/
theorem Completes.exists_isFileModule (h : l.Completes files root final)
    (hnone : ∀ s component markup, ¬ l.AddsTemplate files root s component markup) {m : Module}
    (hm : m ∈ final.table.modules) : ∃ spans, l.IsFileModule files root m spans := by
  rcases h.origin hm with hfile | ⟨s, component, markup, hadds, -⟩
  · exact hfile
  · exact absurd hadds (hnone s component markup)

/-- The path of a file's module leads to a file when the build enters it. -/
theorem IsFileModule.isFile {m : Module} {spans : List Span}
    (h : l.IsFileModule files root m spans) :
    ∃ now, l.Becomes files now ∧ now.isFile m.path = true := by
  obtain ⟨s, linked, s', henters, -⟩ := h
  exact ⟨s.files, henters.becomes, henters.isFile⟩

/-- In a build that adds no templates, a file has a module if a file with a module always requires
it, and the one that is required has the lower number. -/
theorem IsFileModule.exists_lower {m : Module} {spans : List Span}
    (h : l.IsFileModule files root m spans) (hfinal : l.Completes files root final)
    (hnone : ∀ s component markup, ¬ l.AddsTemplate files root s component markup)
    (hsame : m.path.same p = true) (hrequires : l.AlwaysRequires files p q) :
    ∃ dep ∈ final.table.modules, dep.path.same q = true ∧ dep.number < m.number := by
  obtain ⟨now, text', source, filling, hnow, hreads, rfl⟩ := h.reads
  obtain ⟨⟨text, htext⟩, hcalls⟩ := hrequires now hnow
  obtain ⟨call, hcall, halways⟩ := hcalls text source filling (hreads.of_same hsame htext)
  obtain ⟨s, linked, s', hbecomes, htable, hmodule, hleads, hkept⟩ := h.leads
  obtain ⟨link, -, hlead⟩ := exists_mem_right_of_forall₂ hleads hcall
  -- looking the target up gives the file from the path of the module as well
  rw [Path.same_comm] at hsame
  have hlookup (other : FileSystem) (hother : l.Becomes files other) :
      ∃ r, l.lookup.destination other m.path call.target = .ok (.file r) ∧ r.same q = true := by
    obtain ⟨r, hr, hrq⟩ := halways other hother
    exact ⟨r, Lookup.destination_eq_of_same hsame hr, hrq⟩
  cases hlead with
  | library _ _ hdest _ =>
    obtain ⟨r, hr, -⟩ := hlookup now hnow
    cases (Lookup.destination_eq_file_iff.1 hr).1.symm.trans (namesLibrary_of_destination hdest)
  | @module t call path dep link hbefore _ _ hdest hdep hpath _ =>
    have hnumber : dep.number < m.number := by
      rw [hmodule]
      exact (htable.number_bounds hdep).2
    have hmem := (hkept final hfinal).subset hdep
    refine ⟨dep, hmem, ?_, hnumber⟩
    rcases eq_or_of_destination_eq hdest with ⟨rfl, -⟩ | hlook
    · -- the short cut leads to what was a file when it was entered, and so to the same file as
      -- looking the target up in the files at that time
      obtain ⟨spans', hdepfile⟩ := hfinal.exists_isFileModule hnone hmem
      obtain ⟨other, hother, hisFile⟩ := hdepfile.isFile
      obtain ⟨r, hr, hrq⟩ := hlookup other hother
      have hfolded := FileSystem.isFile_folded_of_same hpath hisFile
      have hfile := (Lookup.destination_eq_file_iff.1 hr).2
      rw [Lookup.file?_eq_of_isFile hfolded] at hfile
      cases hfile
      exact Path.same_trans hpath hrq
    · obtain ⟨r, hr, hrq⟩ := hlookup t.files (hbecomes.trans hbefore.files)
      rw [hr] at hlook
      cases hlook
      exact Path.same_trans hpath hrq

/-- In a build that adds no templates, a file with a module can be reached. -/
theorem Completes.reachable (h : l.Completes files root final) (hkeeps : l.KeepsFiles files)
    (hnone : ∀ s component markup, ¬ l.AddsTemplate files root s component markup) {m : Module}
    (hm : m ∈ final.table.modules) : l.Reachable files root m.path := by
  obtain ⟨spans, s, linked, s', henters, -⟩ := h.exists_isFileModule hnone hm
  exact henters.reachable hkeeps

/-- In a build that adds no templates, a file that can be reached has a module. -/
theorem Completes.exists_module (h : l.Completes files root final) (hkeeps : l.KeepsFiles files)
    (hnone : ∀ s component markup, ¬ l.AddsTemplate files root s component markup)
    (hreach : l.Reachable files root q) : ∃ m ∈ final.table.modules, m.path.same q = true := by
  obtain ⟨start, hstart, hsteps⟩ := hreach
  -- on the way from the root, every file on it has a module
  induction hsteps with
  | refl =>
    obtain ⟨m, hlast, -, hroot⟩ := h.getLast?
    rw [hstart] at hroot
    cases hroot
    exact ⟨m, List.mem_of_getLast? hlast, Path.same_refl m.path⟩
  | tail _ hrequires ih =>
    obtain ⟨m, hm, hsame⟩ := ih
    obtain ⟨spans, hfile⟩ := h.exists_isFileModule hnone hm
    obtain ⟨dep, hdep, hdepsame, -⟩ := hfile.exists_lower h hnone hsame (hrequires.always hkeeps)
    exact ⟨dep, hdep, hdepsame⟩

/-! ## Graphs -/

/-- A compiler without files keeps all files. -/
theorem keepsFiles_of_isPure (h : ∀ compiler, l.compiler = some compiler → compiler.IsPure) :
    l.KeepsFiles files := by
  rintro after ⟨compiler, markup, hcompiler, rfl⟩
  obtain ⟨f, rfl⟩ := h compiler hcompiler
  rw [Compiler.run_ofFunction]

/-- If the compiler keeps the files and no template becomes a module, a path has a module exactly if
a file with this path can be reached from the root, and there is one such module. -/
theorem exists_module_iff_reachable {g : ModuleGraph} (h : (l.graph files root).1 = .ok g)
    (hkeeps : l.KeepsFiles files)
    (hnone : ∀ s component markup, ¬ l.AddsTemplate files root s component markup) :
    (∀ p, (∃ m ∈ g.modules, m.path.same p = true) ↔
      ∃ q, l.Reachable files root q ∧ q.same p = true) ∧
    ∀ p q, l.Reachable files root q → q.same p = true →
      g.modules.countP (·.path.same p) = 1 := by
  obtain ⟨final, hfinal, rfl⟩ := completes_of_graph h
  have htemplates : l.TemplatesAreNew files root := fun s component markup hadds =>
    absurd hadds (hnone s component markup)
  refine ⟨fun p => ⟨?_, ?_⟩, ?_⟩
  · rintro ⟨m, hm, hsame⟩
    exact ⟨m.path, hfinal.reachable hkeeps hnone hm, hsame⟩
  · rintro ⟨q, hreach, hsame⟩
    obtain ⟨m, hm, hsame'⟩ := hfinal.exists_module hkeeps hnone hreach
    exact ⟨m, hm, Path.same_trans hsame' hsame⟩
  · intro p q hreach hsame
    obtain ⟨m, hm, hsame'⟩ := hfinal.exists_module hkeeps hnone hreach
    exact (hfinal.pathsDistinct rfl htemplates).countP_eq_one hm (Path.same_trans hsame' hsame)

/-- A linker that compiles templates. -/
def compilingLinker : Linker :=
  { sampleLinker with compiler := some (Compiler.framing [] [] []) }

/-- The graph of the small build when its template is compiled. -/
def compiledGraph : ModuleGraph where
  modules :=
    [⟨1, ⟨"d.html".toList⟩, "module.exports = \"<p>\\n\";\n".toList, []⟩,
      ⟨2, ⟨"b.js".toList⟩, "require('./d.html');\n".toList, [("./d.html".toList, 1)]⟩,
      ⟨3, ⟨"c.vue".toList⟩,
        "require('./b');\nmodule.exports = \x7b\nrender: function() \x7b<b>\n\x7d,\x7d;\n".toList,
        [("./b".toList, 2)]⟩,
      ⟨4, ⟨"a.js".toList⟩, "require('./c.vue');\nrequire('./b');\nrequire('vue');\n".toList,
        [("./b".toList, 2), ("./c.vue".toList, 3)]⟩]
  entry := 4
  styles := []

/-- In the small build, the markup can be reached and has one module. -/
theorem reachable_sampleTree :
    (compilingLinker.graph sampleTree ⟨"a.js".toList⟩).1 = .ok compiledGraph ∧
      (∃ q, compilingLinker.Reachable sampleTree ⟨"a.js".toList⟩ q ∧
        q.same ⟨"d.html".toList⟩ = true) ∧
      compiledGraph.modules.countP (·.path.same ⟨"d.html".toList⟩) = 1 := by
  have hgraph : (compilingLinker.graph sampleTree ⟨"a.js".toList⟩).1 = .ok compiledGraph := by
    decide +kernel
  have hkeeps : compilingLinker.KeepsFiles sampleTree := by
    apply keepsFiles_of_isPure
    rintro compiler hcompiler
    cases hcompiler
    exact ⟨_, rfl⟩
  have hnone : ∀ s component markup,
      ¬ compilingLinker.AddsTemplate sampleTree ⟨"a.js".toList⟩ s component markup := by
    rintro s component markup ⟨hcompiler, -⟩
    cases hcompiler
  obtain ⟨hiff, honce⟩ := exists_module_iff_reachable hgraph hkeeps hnone
  obtain ⟨q, hreach, hsame⟩ :=
    (hiff ⟨"d.html".toList⟩).1 ⟨_, List.mem_cons_self .., Path.same_refl _⟩
  exact ⟨hgraph, ⟨q, hreach, hsame⟩, honce _ q hreach hsame⟩

end Linker

end ScriptBundle
