/-
# Vendor libraries that are recorded

A target that names a vendor library is left to the page, unless a module is complete at the path
that the target spells when the build comes to the call: complete modules come before libraries.  So
whether such a target is recorded depends on what was read before, and two files that differ in the
order of their calls only can differ in this.

## Main content

- `Linker.IsFileModule.completeAt`: a module is complete where such a target is recorded.
- `mem_libraryNames` and `Job.namesLibrary_iff`: which targets name a vendor library.
- `Job.records_library_iff`: a target that names a vendor library is recorded exactly if a module was
  complete at its path when the build was at one of its calls.
-/
import ScriptBundle.Job.Basic
import ScriptBundle.Proofs.Build.Calls

namespace ScriptBundle

namespace Linker

variable {l : Linker} {files : FileSystem} {root : Path} {m : Module} {target : Text}

/-! ## Recorded libraries -/

/-- A target that names a vendor library is recorded for a call at which a module is complete at its
path, and the number is that of this module. -/
theorem IsFileModule.completeAt {spans : List Span} (h : l.IsFileModule files root m spans)
    (hlibrary : l.lookup.namesLibrary target = true) {number : ModuleNumber}
    (hmem : (target, number) ∈ m.dependencies) :
    ∃ dep, l.CompleteAt files root m target dep ∧ dep.number = number := by
  obtain ⟨t, call, link, u, hcall, rfl, hpart, hdependency⟩ := h.exists_atCall hmem
  -- a file is only found for the target in the table
  have htable {path : Path} (hdest : l.destination t m.path call.target = .ok (.file path)) :
      path = (Lookup.targetPath m.path call.target).folded ∧ (t.table.find? path).isSome := by
    rcases eq_or_of_destination_eq hdest with hfolded | hlookup
    · exact hfolded
    · rw [(Lookup.destination_eq_file_iff.1 hlookup).1] at hlibrary
      cases hlibrary
  cases hpart with
  | settle hsettle _ =>
    cases hsettle with
    | library _ => cases hdependency
    | complete hdest hfound =>
      obtain ⟨rfl, -⟩ := htable hdest
      exact ⟨_, ⟨t, call, hcall, rfl, hfound⟩, (Prod.mk.inj (Option.some.inj hdependency)).2⟩
  | enter hdest hnew _ _ _ =>
    obtain ⟨-, hsome⟩ := htable hdest
    rw [hnew.1] at hsome
    cases hsome

end Linker

/-! ## Names of libraries -/

/-- The names of vendor libraries in directories are those of their entries, up to the first dot. -/
theorem mem_libraryNames {fs : FileSystem} {dirs : List Path} {name : Text} :
    name ∈ libraryNames fs dirs ↔ ∃ dir ∈ dirs, ∃ entries, fs.list? dir = some entries ∧
      ∃ entry ∈ entries, Path.stem entry = name := by
  rw [libraryNames, Text.mem_nameSet, List.mem_flatMap]
  constructor
  · rintro ⟨dir, hdir, hname⟩
    obtain ⟨entry, hentry, hstem⟩ := List.mem_map.1 hname
    cases hlist : fs.list? dir with
    | none =>
      rw [hlist] at hentry
      cases hentry
    | some entries =>
      rw [hlist] at hentry
      exact ⟨dir, hdir, entries, hlist, entry, hentry, hstem⟩
  · rintro ⟨dir, hdir, entries, hlist, entry, hentry, hstem⟩
    refine ⟨dir, hdir, List.mem_map.2 ⟨entry, ?_, hstem⟩⟩
    rw [hlist]
    exact hentry

namespace Job

/-- The name of a vendor library of a job: it is given, or that of an entry of a directory. -/
def IsLibrary (job : Job) (fs : FileSystem) (name : Text) : Prop :=
  name ∈ job.libraries ∨ ∃ dir ∈ job.libraryDirs, ∃ entries, fs.list? dir = some entries ∧
    ∃ entry ∈ entries, Path.stem entry = name

/-- A target names a vendor library if the part of its file name before the first dot does. -/
theorem namesLibrary_iff {job : Job} {fs : FileSystem} {target : Text} :
    (job.lookup fs).namesLibrary target = true ↔
      ∃ name, Path.fileName? ⟨target⟩ = some name ∧ job.IsLibrary fs (Path.stem name) := by
  have hmem (name : Text) : name ∈ (job.lookup fs).libraries ↔ job.IsLibrary fs name := by
    rw [lookup, List.mem_append, mem_libraryNames, or_comm]
    rfl
  unfold Lookup.namesLibrary
  cases Path.fileName? ⟨target⟩ with
  | none => simp
  | some name => simp [hmem]

/-- A target that names a vendor library is recorded exactly if a module was complete at the path
that it spells when the build was at one of its calls.  What is recorded is the number of such a
module. -/
theorem records_library_iff {job : Job} {fs : FileSystem} {compiler : Option Compiler}
    {g : ModuleGraph}
    (h : (Linker.graph ⟨job.lookup fs, compiler⟩ fs job.root).1 = .ok g) {m : Module}
    (hm : m ∈ g.modules) {target name : Text} (hname : Path.fileName? ⟨target⟩ = some name)
    (hlibrary : job.IsLibrary fs (Path.stem name)) :
    ((∃ number, (target, number) ∈ m.dependencies) ↔
      ∃ dep, Linker.CompleteAt ⟨job.lookup fs, compiler⟩ fs job.root m target dep) ∧
    ∀ number, (target, number) ∈ m.dependencies →
      ∃ dep ∈ g.modules, dep.number = number ∧
        Linker.CompleteAt ⟨job.lookup fs, compiler⟩ fs job.root m target dep := by
  have hnames := namesLibrary_iff.2 ⟨name, hname, hlibrary⟩
  obtain ⟨final, hfinal, rfl⟩ := Linker.completes_of_graph h
  have hrecorded : ∀ number, (target, number) ∈ m.dependencies →
      ∃ dep ∈ final.table.modules, dep.number = number ∧
        Linker.CompleteAt ⟨job.lookup fs, compiler⟩ fs job.root m target dep := by
    intro number hmem
    rcases hfinal.origin hm with ⟨spans, hfile⟩ | ⟨s, component, markup, -, rfl⟩
    · obtain ⟨dep, hcomplete, hnumber⟩ := hfile.completeAt hnames hmem
      exact ⟨dep, (hcomplete.mem hfinal).1, hnumber, hcomplete⟩
    · cases hmem
  refine ⟨⟨?_, ?_⟩, hrecorded⟩
  · rintro ⟨number, hmem⟩
    obtain ⟨dep, -, -, hcomplete⟩ := hrecorded number hmem
    exact ⟨dep, hcomplete⟩
  · rintro ⟨dep, hcomplete⟩
    exact hcomplete.exists_mem_dependencies

/-! ## A library that is recorded -/

/-- A script that requires a directory, and then the index file of the directory. -/
def libraryTree : FileSystem where
  nodes :=
    [(["a.js".toList],
        .file (Utf8.encode "require('./lib');\nrequire('./lib/index.js');\n".toList)),
      (["lib".toList], .directory),
      (["lib".toList, "index.js".toList], .file (Utf8.encode "module.exports = 1;\n".toList))]

/-- A job with a vendor library that has the name of index files. -/
def libraryJob : Job where
  root := ⟨"a.js".toList⟩
  output := ⟨"bundle.js".toList⟩
  libraries := ["index".toList]

/-- The graph of this job. -/
def libraryGraph : ModuleGraph where
  modules :=
    [⟨1, ⟨"lib/index.js".toList⟩, "module.exports = 1;\n".toList, []⟩,
      ⟨2, ⟨"a.js".toList⟩, "require('./lib');\nrequire('./lib/index.js');\n".toList,
        [("./lib".toList, 1), ("./lib/index.js".toList, 1)]⟩]
  entry := 2
  styles := []

/-- The job gives its graph. -/
theorem graph_libraryTree :
    (Linker.graph ⟨libraryJob.lookup libraryTree, none⟩ libraryTree libraryJob.root).1 =
      .ok libraryGraph := by
  decide +kernel

/-- The index file was complete when the build was at the call that spells its path. -/
theorem completeAt_libraryTree :
    (Linker.graph ⟨libraryJob.lookup libraryTree, none⟩ libraryTree libraryJob.root).1 =
        .ok libraryGraph ∧
      libraryJob.IsLibrary libraryTree "index".toList ∧
      ∃ m dep, libraryGraph.modules[1]? = some m ∧
        Linker.CompleteAt ⟨libraryJob.lookup libraryTree, none⟩ libraryTree libraryJob.root m
          "./lib/index.js".toList dep := by
  have hlibrary : libraryJob.IsLibrary libraryTree (Path.stem "index.js".toList) :=
    .inl (by decide)
  have hname : Path.fileName? ⟨"./lib/index.js".toList⟩ = some "index.js".toList := rfl
  have hmem := List.mem_of_getElem? (rfl : libraryGraph.modules[1]? = some _)
  obtain ⟨dep, hcomplete⟩ :=
    (records_library_iff graph_libraryTree hmem hname hlibrary).1.1 ⟨1, by decide⟩
  exact ⟨graph_libraryTree, hlibrary, _, dep, rfl, hcomplete⟩

/-- A target that names a vendor library can be recorded. -/
theorem exists_recorded_library :
    ∃ m ∈ libraryGraph.modules, ∃ number,
      (Linker.graph ⟨libraryJob.lookup libraryTree, none⟩ libraryTree libraryJob.root).1 =
          .ok libraryGraph ∧
        ("./lib/index.js".toList, number) ∈ m.dependencies ∧
        Path.fileName? ⟨"./lib/index.js".toList⟩ = some "index.js".toList ∧
        Path.stem "index.js".toList ∈ libraryJob.libraries :=
  ⟨_, List.mem_of_getElem? (rfl : libraryGraph.modules[1]? = some _), 1, graph_libraryTree,
    by decide, rfl, by decide⟩

end Job

end ScriptBundle
