/-
# Files of templates

A template in a file of its own is named by a target, which should lead to the same file whether templates
are compiled or not.  But if they are not compiled, then the target is looked up as that of any other call,
so a directory stands for its index file and extensions are tried; and if they are compiled, the file is
the one at the path as it is written.  So the two are one file only if the target spells the file in full.

## Main content

- `Lookup.file?_of_isDirectory` and `Lookup.file?_of_not_isFile`: where a path leads that spells no file.
- `Linker.compileFile` compiles the markup in a file.
- `Linker.inlineText_of_destination`: what is compiled where a target leads to a file.
-/
import ScriptBundle.Proofs.Build.Inlining
import ScriptBundle.Proofs.Build.Reachability

namespace ScriptBundle

/-! ## What stands at a path -/

namespace FileSystem

variable {fs : FileSystem} {p : Path}

/-- A directory has no text. -/
theorem readText_of_isDirectory (h : fs.isDirectory p = true) :
    fs.readText p = .error .isDirectory := by
  unfold isDirectory at h
  split at h
  · next hstat =>
    rw [readText, readBytes, hstat]
    rfl
  · cases h

/-- Where nothing is found, no text is read. -/
theorem readText_of_stat_eq_error {fault : IoFault} (h : fs.stat p = .error fault) :
    fs.readText p = .error fault := by
  rw [readText, readBytes, h]
  rfl

/-- The text of the null device is empty. -/
theorem readText_of_nullDevice (h : fs.stat p = .ok .nullDevice) : fs.readText p = .ok [] := by
  rw [readText, readBytes, h]
  rfl

/-- Where neither a file nor a directory stands, nothing is found but the null device. -/
theorem stat_cases (hfile : fs.isFile p = false) (hdirectory : fs.isDirectory p = false) :
    (∃ fault, fs.stat p = .error fault) ∨ fs.stat p = .ok .nullDevice := by
  rw [isFile] at hfile
  rw [isDirectory] at hdirectory
  cases hstat : fs.stat p with
  | error fault => exact .inl ⟨fault, rfl⟩
  | ok node =>
    rw [hstat] at hfile hdirectory
    cases node with
    | file content => cases hfile
    | directory => cases hdirectory
    | nullDevice => exact .inr rfl

end FileSystem

namespace Lookup

variable {l : Lookup} {fs : FileSystem} {p file : Path}

/-- In a directory, a path leads to the index file. -/
theorem file?_of_isDirectory (hdirectory : fs.isDirectory p.folded = true)
    (h : l.file? fs p = some file) : file = p.folded.join indexFile := by
  rw [file?, foldedFile?, if_pos hdirectory, Option.ite_none_right_eq_some] at h
  exact (Option.some.inj h.2).symm

/-- Where neither a file nor a directory stands, a path leads to a file with one of the extensions. -/
theorem file?_of_not_isFile (hfile : fs.isFile p.folded = false)
    (hdirectory : fs.isDirectory p.folded = false) (h : l.file? fs p = some file) :
    ∃ extension ∈ l.extensions, file = withExtension p.folded extension := by
  rw [file?, foldedFile?, hdirectory, if_neg Bool.false_ne_true, hfile,
    if_neg Bool.false_ne_true] at h
  obtain ⟨extension, hmem, rfl⟩ := List.mem_map.1 (List.mem_of_find?_eq_some h)
  exact ⟨extension, hmem, rfl⟩

end Lookup

namespace Linker

open Build

variable {l : Linker} {compiler : Compiler} {files : FileSystem} {root requester file : Path}
  {s final : BuildState} {target : Text} {parts : List Part} {fault : IoFault}

/-! ## Compiling files -/

/-- Compiles the markup in a file. -/
def compileFile (compiler : Compiler) (file : Path) : Build Text := do
  return (← compile compiler file (← readText file)).optionText

/-- With a compiler, the file that is compiled is the one that the target spells. -/
theorem inlineText_eq_compileFile (hcompiler : l.compiler = some compiler) (requester : Path)
    (target : Text) :
    l.inlineText requester target =
      compileFile compiler (Lookup.targetPath requester target).folded := by
  rw [inlineText, hcompiler]
  rfl

/-- What cannot be read is not compiled. -/
theorem run_compileFile_of_error (hread : s.files.readText file = .error fault) :
    (compileFile compiler file).run.run s = (.error (.unreadable file fault), s) := by
  have hrun : (readText file).run.run s =
      ((s.files.readText file).mapError (.unreadable file), s) := rfl
  rw [compileFile, run_bind, hrun, hread]
  rfl

/-- Of what can be read, the text is compiled. -/
theorem run_compileFile_of_ok {markup : Text} (hread : s.files.readText file = .ok markup) :
    (compileFile compiler file).run.run s =
      (RenderFunctions.optionText <$> compile compiler file markup).run.run s := by
  rw [compileFile, run_bind, gives_readText.2 ⟨hread, rfl⟩, map_eq_pure_bind]

/-- In a build that ends well, every template in a file of its own is linked. -/
theorem Amid.gives_inlineText (h : l.Amid files root s requester (.inline target :: parts))
    (hfinal : l.Completes files root final) :
    ∃ text s', Gives (l.inlineText requester target) s text s' := by
  obtain ⟨s₀, s₁, spans, front, linked, henters, hopens, hparts, hfront⟩ := h
  obtain ⟨t, all, rest, -, hback, -⟩ := henters.goesOn hfinal hopens hparts hfront
  cases hback with
  | settle hpart _ =>
    cases hpart with
    | inline htext => exact ⟨_, _, htext⟩

/-! ## Both ways to a file -/

/-- A reference to a template is missed: the file that its target spells cannot be read, and no build that
comes to it ends well. -/
def Misses (l : Linker) (s : BuildState) (requester : Path) (target : Text) (fault : IoFault) : Prop :=
  (l.inlineText requester target).run.run s =
      (.error (.unreadable (Lookup.targetPath requester target).folded fault), s) ∧
    ∀ files root parts g, l.Amid files root s requester (.inline target :: parts) →
      (l.graph files root).1 ≠ .ok g

/-- A reference is missed if the file that its target spells cannot be read. -/
theorem misses_of_error (hcompiler : l.compiler = some compiler)
    (hread : s.files.readText (Lookup.targetPath requester target).folded = .error fault) :
    l.Misses s requester target fault := by
  have hrun : (l.inlineText requester target).run.run s =
      (.error (.unreadable (Lookup.targetPath requester target).folded fault), s) := by
    rw [inlineText_eq_compileFile hcompiler, run_compileFile_of_error hread]
  refine ⟨hrun, fun files root parts g hamid hgraph => ?_⟩
  obtain ⟨final, hfinal, -⟩ := completes_of_graph hgraph
  obtain ⟨text, s', hgives⟩ := hamid.gives_inlineText hfinal
  cases hrun.symm.trans hgives

/-- What is compiled where a target leads to a file.  If a file stands at the path as the target spells it,
then it is the one that the target leads to, and its content is compiled.  In a directory, and where the
target is spelled without its extension, the target leads to another file and the reference to the template
is missed; only at the null device, an empty template is compiled in place of this file. -/
theorem inlineText_of_destination {written : Path} (hcompiler : l.compiler = some compiler)
    (hdest : l.lookup.destination s.files requester target = .ok (.file file))
    (hwritten : (Lookup.targetPath requester target).folded = written) :
    (s.files.isFile written = true →
      file = written ∧ l.inlineText requester target = compileFile compiler file) ∧
    (s.files.isDirectory written = true →
      file = written.join Lookup.indexFile ∧ l.Misses s requester target .isDirectory) ∧
    (s.files.isFile written = false → s.files.isDirectory written = false →
      (∃ extension ∈ l.lookup.extensions, file = Lookup.withExtension written extension) ∧
      ((∃ fault, s.files.stat written = .error fault ∧ l.Misses s requester target fault) ∨
        (s.files.stat written = .ok .nullDevice ∧ (l.inlineText requester target).run.run s =
          (RenderFunctions.optionText <$> compile compiler written []).run.run s))) := by
  obtain ⟨-, hfound⟩ := Lookup.destination_eq_file_iff.1 hdest
  subst hwritten
  refine ⟨fun hfile => ?_, fun hdirectory => ?_, fun hfile hdirectory => ?_⟩
  · rw [Lookup.file?_eq_of_isFile hfile] at hfound
    obtain rfl := Option.some.inj hfound
    exact ⟨rfl, inlineText_eq_compileFile hcompiler ..⟩
  · exact ⟨Lookup.file?_of_isDirectory hdirectory hfound,
      misses_of_error hcompiler (FileSystem.readText_of_isDirectory hdirectory)⟩
  · refine ⟨Lookup.file?_of_not_isFile hfile hdirectory hfound, ?_⟩
    rcases FileSystem.stat_cases hfile hdirectory with ⟨fault, hstat⟩ | hstat
    · exact .inl ⟨fault, hstat,
        misses_of_error hcompiler (FileSystem.readText_of_stat_eq_error hstat)⟩
    · refine .inr ⟨hstat, ?_⟩
      rw [inlineText_eq_compileFile hcompiler,
        run_compileFile_of_ok (FileSystem.readText_of_nullDevice hstat)]

/-- A script that refers to a template without its extension. -/
def shortTree : FileSystem :=
  sampleFiles [("a.js", "x = \x7btemplate: require('./view')\x7d;\n"), ("view.html", "<p>\n")]

/-- A linker that knows this extension, with or without a compiler. -/
def shortLinker (compiler : Option Compiler) : Linker where
  lookup := { extensions := ["html".toList] }
  compiler

/-- A compiler that refuses nothing. -/
def acceptingCompiler : Compiler := Compiler.framing [] [] []

/-- The target of this script leads to the template, and the reference to it is missed. -/
theorem misses_shortTree :
    (shortLinker (some acceptingCompiler)).lookup.destination shortTree ⟨"a.js".toList⟩
        "./view".toList = .ok (.file ⟨"view.html".toList⟩) ∧
      (shortLinker (some acceptingCompiler)).Misses { files := shortTree } ⟨"a.js".toList⟩
        "./view".toList .notFound := by
  have hdest : (shortLinker (some acceptingCompiler)).lookup.destination shortTree ⟨"a.js".toList⟩
      "./view".toList = .ok (.file ⟨"view.html".toList⟩) := by
    decide +kernel
  have hwritten : (Lookup.targetPath ⟨"a.js".toList⟩ "./view".toList).folded = ⟨"view".toList⟩ := by
    decide +kernel
  have hstat : shortTree.stat ⟨"view".toList⟩ = .error .notFound := by decide +kernel
  have hcompiler : (shortLinker (some acceptingCompiler)).compiler = some acceptingCompiler := rfl
  refine ⟨hdest, ?_⟩
  obtain ⟨-, -, hmisses⟩ :=
    inlineText_of_destination (s := { files := shortTree }) hcompiler hdest hwritten
  obtain ⟨-, ⟨fault, hfault, hmiss⟩ | ⟨hnull, -⟩⟩ := hmisses (by decide +kernel) (by decide +kernel)
  · cases hstat.symm.trans hfault
    exact hmiss
  · cases hstat.symm.trans hnull

/-- A build can end well without a compiler, and fail because of the template with one that refuses
nothing. -/
theorem graph_shortTree :
    ((shortLinker none).graph shortTree ⟨"a.js".toList⟩).1 = .ok
        { modules :=
            [⟨1, ⟨"view.html".toList⟩, "module.exports = \"<p>\\n\";\n".toList, []⟩,
              ⟨2, ⟨"a.js".toList⟩, "x = \x7btemplate: require('./view')\x7d;\n".toList,
                [("./view".toList, 1)]⟩]
          entry := 2
          styles := [] } ∧
      ((shortLinker (some acceptingCompiler)).graph shortTree ⟨"a.js".toList⟩).1 =
        .error (.unreadable ⟨"view".toList⟩ .notFound) ∧
      ∀ markup, ((acceptingCompiler markup).run.run shortTree).1 = .ok ⟨markup, []⟩ := by
  refine ⟨?_, ?_, fun markup => ?_⟩
  · decide +kernel
  · decide +kernel
  · rw [acceptingCompiler, Compiler.framing, Compiler.run_ofFunction]
    simp

end Linker

end ScriptBundle
