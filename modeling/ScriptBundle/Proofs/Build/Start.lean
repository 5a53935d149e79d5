/-
# Builds that start further up

A build that stays below its working directory can be started in a directory further up, with the
way down in front of its root.  Its paths then have this way in front of them, and nothing else
changes: the same files are found, in the same order, and the product is the same.

## Main content

- `Linker.Meets` says which paths come up in a build, `Lookup.LeadsTo` what is opened there.
- `Linker.mirrors_startIn`: the build from further up gets the same answers.
- `Linker.graph_startIn_iff` and `Job.makeWith_startIn`: it has the same graph, up to the way down,
  and the same product.
-/
import ScriptBundle.Proofs.Build.Inputs
import ScriptBundle.Proofs.Build.Templates
import ScriptBundle.Proofs.FileSystem.Start

namespace ScriptBundle

open FileSystem (Fits StandsBelow)
open ScriptBundle.Path (IsDirect ofNames)

/-- What is opened where a path leads: the file that is found, or what can be read at the path as it
is written. -/
def Lookup.LeadsTo (l : Lookup) (fs : FileSystem) (p q : Path) : Prop :=
  l.file? fs p = some q ∨ q = p.folded ∧ ∃ text, fs.readText q = .ok text

/-- A file with a direct path has a name. -/
theorem Path.IsDirect.exists_fileName? {fs : FileSystem} {p : Path} (h : IsDirect p)
    (hfile : fs.isFile p = true) : ∃ name, p.fileName? = some name := by
  obtain ⟨names, hcomponents⟩ := h
  cases names using List.reverseRecOn with
  | append_singleton names name =>
    refine ⟨name, Path.fileName?_eq_some_iff.2 ?_⟩
    rcases hcomponents with hcomponents | ⟨-, hcomponents⟩
    · exact ⟨.root :: names.map Component.name, by simp [hcomponents]⟩
    · exact ⟨names.map Component.name, by simp [hcomponents]⟩
  | nil =>
    -- at the root there is a directory
    have hroot : p.components = [.root] := by simpa using hcomponents
    obtain ⟨loc, content, hlocate, hnode⟩ := FileSystem.isFile_iff.1 hfile
    have hloc : loc = [] := by
      rw [← List.reverse_inj, FileSystem.reverse_of_locate hlocate, Path.walk_eq_foldl, hroot]
      rfl
    rw [hloc] at hnode
    cases hnode

/-- The template of a component stays beside it behind a directory. -/
theorem Source.templatePath_join {names : List Text} {component : Path} {name : Text}
    (hnames : Path.AreNames names) (hcomponent : IsDirect component)
    (hname : component.fileName? = some name) :
    IsDirect (templatePath component) ∧
      templatePath ((ofNames names).join component) =
        (ofNames names).join (templatePath component) := by
  have hbeside : IsDirect (component.directory.join ⟨templateName component⟩) := by
    apply hcomponent.replace_name
    rw [(isName_templateName component).components_join, Path.components_of_fileName? hname,
      List.dropLast_concat]
  have htemplateName : templateName ((ofNames names).join component) = templateName component := by
    rw [templateName, templateName, Path.fileName?_join_ofNames hnames hcomponent]
  refine ⟨hbeside.folded, ?_⟩
  rw [templatePath, htemplateName]
  exact Lookup.folded_targetPath_join hnames hcomponent hname hbeside.folded

namespace Linker

variable {l : Linker} {fs : FileSystem} {names : List Text} {root file p : Path} {s : BuildState}

/-- The paths that come up in a build: the root, and the targets that the build comes to, as seen from
the files that require them. -/
inductive Meets (l : Linker) (files : FileSystem) (root : Path) : Path → Prop
  | root : Meets l files root root
  | follow {s : BuildState} {file : Path} {call : Call} {parts : List Part}
    (hamid : l.Amid files root s file (.follow call :: parts)) :
    Meets l files root (Lookup.targetPath file call.target)
  | inline {s : BuildState} {file : Path} {target : Text} {parts : List Part}
    (hamid : l.Amid files root s file (.inline target :: parts)) :
    Meets l files root (Lookup.targetPath file target)

/-- What a build enters is found at a path that comes up. -/
theorem Enters.exists_meets (h : l.Enters fs root s p) (hkeeps : l.KeepsFiles fs) :
    ∃ q, l.Meets fs root q ∧ l.lookup.file? fs q = some p := by
  have hfiles := h.files_eq hkeeps
  cases h with
  | root hroot =>
    refine ⟨root, .root, ?_⟩
    unfold Lookup.rootFile at hroot
    split at hroot
    · next hfound => rw [hfound, Except.ok.inj hroot]
    · cases hroot
  | follow hfile hopens hparts hfront hdest hnew =>
    refine ⟨_, .follow ⟨_, _, _, _, _, hfile, hopens, hparts, hfront⟩, ?_⟩
    rw [← hfiles]
    exact (Lookup.destination_eq_file_iff.1 (lookup_of_isNew hdest hnew)).2

/-- A call that a build comes to belongs to a module, which depends on its target unless this is a
vendor library. -/
theorem Amid.exists_module {files : FileSystem} {final : BuildState} {call : Call}
    {parts : List Part} (h : l.Amid files root s file (.follow call :: parts))
    (hfinal : l.Completes files root final) :
    ∃ m ∈ final.table.modules, m.path = file ∧ (l.lookup.namesLibrary call.target = true ∨
      ∃ number, (call.target, number) ∈ m.dependencies) := by
  obtain ⟨s₀, s₁, spans, front, linked, henters, hopens, hparts, -⟩ := h
  obtain ⟨spans', linked', s', ⟨s₁', hopens', hlinks⟩, -⟩ := henters.visits hfinal
  obtain ⟨rfl, rfl⟩ := hopens.unique hopens'
  have hmodule : l.IsFileModule files root (s'.moduleOf file linked') spans :=
    ⟨s₀, linked', s', henters, ⟨s₁, hopens, hlinks⟩, rfl⟩
  have hcall : .follow call ∈ l.partsOf spans := by
    rw [hparts]
    exact List.mem_append_right _ (List.mem_cons_self ..)
  refine ⟨_, hmodule.mem hfinal, rfl, ?_⟩
  cases hlibrary : l.lookup.namesLibrary call.target with
  | true => exact .inl rfl
  | false =>
    exact .inr (Dependencies.exists_mem_of_isSome_find? (hmodule.isSome_find? hcall hlibrary))

/-- What comes up in a build that compiles no templates and ends well shows in its graph. -/
theorem Meets.of_graph {files : FileSystem} {g : ModuleGraph} (h : l.Meets files root p)
    (hnone : l.compiler = none) (hgraph : (l.graph files root).1 = .ok g) :
    p = root ∨ ∃ m ∈ g.modules, ∃ target, p = Lookup.targetPath m.path target ∧
      (l.lookup.namesLibrary target = true ∨ ∃ number, (target, number) ∈ m.dependencies) := by
  obtain ⟨final, hfinal, rfl⟩ := completes_of_graph hgraph
  cases h with
  | root => exact .inl rfl
  | follow hamid =>
    obtain ⟨m, hm, rfl, hshows⟩ := hamid.exists_module hfinal
    exact .inr ⟨m, hm, _, rfl, hshows⟩
  | inline hamid => exact absurd hnone hamid.compiler_ne_none

section

variable (hbelow : fs.StandsBelow names) (hroot : root.isAbsolute = false)
  (hplain : ∀ extension ∈ l.lookup.extensions, Path.IsPlain ('.' :: extension))
  (hpure : ∀ compiler, l.compiler = some compiler → compiler.IsPure)
  (hstays : ∀ p, l.Meets (fs.startIn names) root p →
    p.folded ≠ ⟨['.']⟩ ∧ p.folded.components.head? ≠ some .parent)
  (hfits : ∀ p q, l.Meets (fs.startIn names) root p →
    l.lookup.LeadsTo (fs.startIn names) p q → Fits ((ofNames names).join q))

include hstays in
/-- What comes up folds to a direct path. -/
theorem Meets.isDirect (h : l.Meets (fs.startIn names) root p) : IsDirect p.folded :=
  Path.isDirect_folded (hstays p h).1 (hstays p h).2

/-- A file that is entered has a name. -/
theorem Enters.exists_fileName? (h : l.Enters fs root s file) (hfile : IsDirect file) :
    ∃ name, file.fileName? = some name := hfile.exists_fileName? h.isFile

/-- While a build is amid a file, the file has a name. -/
theorem Amid.exists_fileName? {parts : List Part} (h : l.Amid fs root s file parts)
    (hfile : IsDirect file) : ∃ name, file.fileName? = some name := by
  obtain ⟨s₀, -, -, -, -, henters, -⟩ := h
  exact henters.exists_fileName? hfile

include hbelow hroot hplain hpure hstays hfits

/-- A build from further up gets the same answers as one that stays below its working directory. -/
theorem mirrors_startIn : l.Mirrors l (fs.startIn names) fs root ((ofNames names).join root)
    (ofNames names).join IsDirect where
  compiler_eq := rfl
  isPure := hpure
  namesLibrary_eq := fun _ => rfl
  same_eq := fun p q hp hq => Path.same_join_ofNames hbelow.areNames hp hq
  fileName_eq := fun p hp => Path.fileName?_join_ofNames hbelow.areNames hp
  root_eq := by
    have hdirect := Meets.isDirect hstays .root
    exact Lookup.file?_join hbelow (Path.folded_join_ofNames hbelow.areNames hroot hdirect)
      fun found hfound => hfits root found .root (.inl hfound)
  valid_root := fun start hstart =>
    Lookup.isDirect_of_file? hplain (Meets.isDirect hstays .root) hstart
  text_eq := by
    intro s p henters hp
    obtain ⟨q, hq, hfound⟩ := henters.exists_meets (keepsFiles_of_isPure hpure)
    exact hbelow.toOption_readText_join hp.text_ne_nil fun _ => hfits q p hq (.inl hfound)
  template_eq := by
    intro s p henters hp
    obtain ⟨name, hname⟩ := henters.exists_fileName? hp
    exact Source.templatePath_join hbelow.areNames hp hname
  spelled_eq := by
    intro s file call parts hamid hfile
    have hdirect := Meets.isDirect hstays (.follow hamid)
    obtain ⟨name, hname⟩ := hamid.exists_fileName? hfile
    exact ⟨hdirect, Lookup.folded_targetPath_join hbelow.areNames hfile hname hdirect⟩
  file_eq := by
    intro s file call parts hamid hfile hlibrary hnone
    have hdirect := Meets.isDirect hstays (.follow hamid)
    obtain ⟨name, hname⟩ := hamid.exists_fileName? hfile
    refine ⟨?_, fun found hfound => Lookup.isDirect_of_file? hplain hdirect hfound⟩
    exact Lookup.file?_join hbelow
      (Lookup.folded_targetPath_join hbelow.areNames hfile hname hdirect)
      fun found hfound => hfits _ found (.follow hamid) (.inl hfound)
  inlined_eq := by
    intro s file target parts hamid hfile
    have hdirect := Meets.isDirect hstays (.inline hamid)
    obtain ⟨name, hname⟩ := hamid.exists_fileName? hfile
    rw [Lookup.folded_targetPath_join hbelow.areNames hfile hname hdirect]
    exact hbelow.toOption_readText_join hdirect.text_ne_nil fun hread =>
      hfits _ _ (.inline hamid) (.inr ⟨rfl, hread⟩)

/-- A build from further up has the graph of one that stays below its working directory, with the way
down in front of all paths. -/
theorem graph_startIn_iff {g' : ModuleGraph} :
    (l.graph fs ((ofNames names).join root)).1 = .ok g' ↔
      ∃ g, (l.graph (fs.startIn names) root).1 = .ok g ∧ g.moved (ofNames names).join = g' :=
  (mirrors_startIn hbelow hroot hplain hpure hstays hfits).graph_eq_ok_iff

end

end Linker

namespace Job

variable {job : Job} {fs : FileSystem} {names : List Text} {compiler : Option Compiler}

/-- The same job with a way down in front of its root. -/
def behind (job : Job) (names : List Text) : Job :=
  { job with root := (ofNames names).join job.root }

/-- A directory with a script and a library directory of its own. -/
def nestedTree : FileSystem where
  nodes :=
    [(["sub".toList], .directory),
      (["sub".toList, "a.js".toList], .file (Utf8.encode "require('./lib');\n".toList)),
      (["sub".toList, "lib".toList], .directory),
      (["sub".toList, "lib".toList, "index.js".toList],
        .file (Utf8.encode "module.exports = 1;\n".toList))]

/-- The job of building the script in its directory. -/
def nestedJob : Job where
  root := ⟨"a".toList⟩
  output := ⟨"bundle.js".toList⟩
  libraryDirs := []

/-- The graph of this job. -/
def nestedGraph : ModuleGraph where
  modules :=
    [⟨1, ⟨"lib/index.js".toList⟩, "module.exports = 1;\n".toList, []⟩,
      ⟨2, ⟨"a.js".toList⟩, "require('./lib');\n".toList, [("./lib".toList, 1)]⟩]
  entry := 2
  styles := []

end Job

end ScriptBundle
