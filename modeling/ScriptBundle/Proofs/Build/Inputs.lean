/-
# What comes into a bundle

The contents of files come into a build in two ways only: a file that becomes a module is read, and
so is a file that holds a template to be compiled in place.  All else that a build asks of the files
is where paths lead.  So vendor libraries, files that only comments refer to, and files that are not
reached can have any contents.

## Main content

- `Linker.IsInput` says which files come into a build.
- `Linker.Completes.mirrors`: a build gets the same answers from all files that agree there.
- `Job.makeWith_eq_of_inputs`: files that agree there lead to the same product.
-/
import ScriptBundle.Proofs.Build.Mirror
import ScriptBundle.Proofs.FileSystem.Shape

namespace ScriptBundle

/-- A graph under its own paths. -/
theorem ModuleGraph.moved_id (g : ModuleGraph) : g.moved id = g := by
  have hmodule : Module.moved id = id := rfl
  have hstyles (sheet : Stylesheet) : sheet.moved id = sheet := List.map_id _
  simp only [moved, hmodule, hstyles, List.map_id]

namespace Linker

variable {l l' : Linker} {files files' : FileSystem} {root path : Path} {s final : BuildState}

/-- A file comes into a build: it becomes a module of its own, or it holds a template that is compiled
in place. -/
def IsInput (l : Linker) (files : FileSystem) (root p : Path) : Prop :=
  (∃ m spans, l.IsFileModule files root m spans ∧ m.path = p) ∨
    ∃ s file target parts, l.Amid files root s file (.inline target :: parts) ∧
      (Lookup.targetPath file target).folded = p

/-- In a build that ends well, what is entered comes into the build. -/
theorem Enters.isInput (h : l.Enters files root s path) (hfinal : l.Completes files root final) :
    l.IsInput files root path := by
  obtain ⟨spans, linked, s', hvisits, -⟩ := h.visits hfinal
  exact .inl ⟨s'.moduleOf path linked, spans, ⟨s, linked, s', h, hvisits, rfl⟩, rfl⟩

/-- Templates are compiled in place only if there is a compiler. -/
theorem Amid.compiler_ne_none {target : Text} {parts : List Part}
    (h : l.Amid files root s path (.inline target :: parts)) : l.compiler ≠ none := by
  obtain ⟨s₀, s₁, spans, front, linked, -, -, hparts, -⟩ := h
  intro hnone
  rw [partsOf, hnone] at hparts
  have hmem : .inline target ∈ Part.ofSpans false spans := by
    rw [show Part.ofSpans false spans = front ++ .inline target :: parts from hparts]
    exact List.mem_append_right _ (List.mem_cons_self ..)
  exact Part.inline_not_mem_ofSpans hmem

/-- The text of a file depends on its bytes alone. -/
theorem readText_eq_of_readBytes {p : Path} (h : files'.readBytes p = files.readBytes p) :
    files'.readText p = files.readText p := by
  simp only [FileSystem.readText, h]

/-- A build that ends well gets the same answers from other files of the same shape that agree with
the first ones on all that comes into the build. -/
theorem Completes.mirrors (h : l.Completes files root final)
    (hpure : ∀ compiler, l.compiler = some compiler → compiler.IsPure)
    (hcompiler : l'.compiler = l.compiler) (hshape : files.SameShape files')
    (hextensions : l'.lookup.extensions = l.lookup.extensions)
    (hlibraries : ∀ target, l'.lookup.namesLibrary target = l.lookup.namesLibrary target)
    (hbytes : ∀ p, l.IsInput files root p → files'.readBytes p = files.readBytes p) :
    l.Mirrors l' files files' root root id fun _ => True where
  compiler_eq := hcompiler
  isPure := hpure
  namesLibrary_eq := hlibraries
  same_eq := fun _ _ _ _ => rfl
  fileName_eq := fun _ _ => rfl
  root_eq := by rw [Lookup.file?_eq_of_sameShape hshape hextensions, Option.map_id, id]
  valid_root := fun _ _ => trivial
  text_eq := fun s p henters _ => by
    rw [id, readText_eq_of_readBytes (hbytes p (henters.isInput h))]
  template_eq := fun _ _ _ _ => ⟨trivial, rfl⟩
  spelled_eq := fun _ _ _ _ _ _ => ⟨trivial, rfl⟩
  file_eq := fun _ _ _ _ _ _ _ _ =>
    ⟨by rw [Lookup.file?_eq_of_sameShape hshape hextensions, Option.map_id, id, id],
      fun _ _ => trivial⟩
  inlined_eq := fun s file target parts hamid _ => by
    rw [id, readText_eq_of_readBytes (hbytes _ (.inr ⟨s, file, target, parts, hamid, rfl⟩))]

end Linker

namespace Job

variable {job : Job} {fs fs' : FileSystem} {compiler : Option Compiler} {product : Product}

/-- Files that have the same shape, and agree on all that comes into a build that ends well, lead to
the same product. -/
theorem makeWith_eq_of_inputs (hpure : ∀ used, compiler = some used → used.IsPure)
    (h : (job.makeWith fs compiler).1 = .ok product) (hshape : fs.SameShape fs')
    (hbytes : ∀ p, Linker.IsInput ⟨job.lookup fs, compiler⟩ fs job.root p →
      fs'.readBytes p = fs.readBytes p) :
    (job.makeWith fs' compiler).1 = .ok product := by
  obtain ⟨g, hgraph, rfl⟩ := makeWith_eq_ok_iff.1 h
  obtain ⟨final, hfinal, -⟩ := Linker.completes_of_graph hgraph
  have hmirrors : Linker.Mirrors ⟨job.lookup fs, compiler⟩ ⟨job.lookup fs', compiler⟩ fs fs'
      job.root job.root id fun _ => True :=
    hfinal.mirrors hpure rfl hshape rfl (namesLibrary_eq_of_sameShape hshape job) hbytes
  exact makeWith_eq_ok_iff.2 ⟨g, hmirrors.graph_eq_ok_iff.2 ⟨g, hgraph, g.moved_id⟩, rfl⟩

/-! ## Files that do not come in -/

/-- A script with a comment that refers to another one, a file that is required, one that is not, and
a vendor library. -/
def unreadTree : FileSystem where
  nodes :=
    [(["a.js".toList],
        .file (Utf8.encode "require('vue');\n// require('./z');\nrequire('./b');\n".toList)),
      (["b.js".toList], .file (Utf8.encode "module.exports = 1;\n".toList)),
      (["z.js".toList], .file []),
      (["vendor".toList], .directory),
      (["vendor".toList, "dev".toList], .directory),
      (["vendor".toList, "dev".toList, "vue.js".toList], .file [])]

/-- The job of building it. -/
def unreadJob : Job where
  root := ⟨"a.js".toList⟩
  output := ⟨"bundle.js".toList⟩

/-- The graph of this job. -/
def unreadGraph : ModuleGraph where
  modules :=
    [⟨1, ⟨"b.js".toList⟩, "module.exports = 1;\n".toList, []⟩,
      ⟨2, ⟨"a.js".toList⟩, "require('vue');\n// require('./z');\nrequire('./b');\n".toList,
        [("./b".toList, 1)]⟩]
  entry := 2
  styles := []

/-- The same files, with other contents of the vendor library and of the file that only the comment
refers to. -/
def changedTree : FileSystem :=
  (unreadTree.insert ["z.js".toList] (.file (Utf8.encode "require('./a');\n".toList))).insert
    ["vendor".toList, "dev".toList, "vue.js".toList] (.file (Utf8.encode "var Vue;\n".toList))

/-- The vendor library and the file that only the comment refers to do not come into the bundle. -/
theorem makeWith_changedTree :
    (unreadJob.makeWith unreadTree none).1 = .ok unreadGraph.product ∧
      unreadTree.SameShape changedTree ∧ changedTree ≠ unreadTree ∧
      (unreadJob.makeWith changedTree none).1 = .ok unreadGraph.product := by
  have hgraph : (Linker.graph ⟨unreadJob.lookup unreadTree, none⟩ unreadTree unreadJob.root).1 =
      .ok unreadGraph := by
    decide +kernel
  have hmake := makeWith_eq_ok_iff.2 ⟨unreadGraph, hgraph, rfl⟩
  have hshape : unreadTree.SameShape changedTree := by
    have hfirst : unreadTree.node? ["z.js".toList] = some (.file []) := rfl
    have hsecond (content : Bytes) :
        (unreadTree.insert ["z.js".toList] (.file content)).node?
          ["vendor".toList, "dev".toList, "vue.js".toList] = some (.file []) := rfl
    exact (FileSystem.sameShape_insert hfirst _).trans
      (FileSystem.sameShape_insert (hsecond _) _)
  refine ⟨hmake, hshape, by decide +kernel, makeWith_eq_of_inputs nofun hmake hshape ?_⟩
  rintro p (⟨m, spans, hfile, rfl⟩ | ⟨s, file, target, parts, hamid, -⟩)
  · obtain ⟨final, hfinal, heq⟩ := Linker.completes_of_graph hgraph
    have hm : m ∈ unreadGraph.modules := by
      rw [heq]
      exact hfile.mem hfinal
    have hall : ∀ m ∈ unreadGraph.modules,
        changedTree.readBytes m.path = unreadTree.readBytes m.path := by
      decide +kernel
    exact hall m hm
  · exact absurd rfl hamid.compiler_ne_none

end Job

end ScriptBundle
