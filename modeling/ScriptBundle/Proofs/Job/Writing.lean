/-
# Writing safely

A job writes its two files only when the build has succeeded, and each of them is replaced at once.
If writing fails, the bundle is as it was, and the stylesheet is as it was or complete; if it
succeeds, both are complete.  In no case is any other file touched, and no temporary file is left.

## Main content

- `Job.StylesAt` is the location of the stylesheet.
- `Job.KeepsFiles` says that the compiler of a job leaves the files as they are; `Job.make_keeps`:
  then the build does so too, also when it fails.
- `Job.of_write_eq_error` and `Job.of_write_eq_ok` say what a write has changed when it ends.
- `Job.run_safe` puts them together.
-/
import ScriptBundle.Job.Run
import ScriptBundle.Proofs.Build.Frame
import ScriptBundle.Proofs.Build.Origin
import ScriptBundle.Proofs.FileSystem.Replacement

namespace ScriptBundle

open FileSystem (Hidden KeptBut Staged)

namespace Job

variable {job : Job} {fs files : FileSystem} {target : Path} {content : Text} {e : BuildError}
  {product : Product}

/-! ## One file -/

/-- If a file is not replaced, nothing has changed. -/
theorem of_replaceFile_eq_error (h : replaceFile fs target content = (.error e, files)) :
    KeptBut (fun _ => False) fs files := by
  unfold replaceFile at h
  split at h
  · cases h
    exact ⟨.refl _, fun _ _ => rfl⟩
  · next temp staged hstage =>
    split at h
    · cases h
      exact (FileSystem.staged_of_stage hstage).discard
    · cases h

/-- If a file is replaced, its path leads to the new content, and nothing else has changed. -/
theorem of_replaceFile_eq_ok (h : replaceFile fs target content = (.ok (), files)) :
    ∃ place, fs.locate target = .ok place ∧ ¬ Hidden place ∧
      files.node? place = some (.file (Utf8.encode content)) ∧ KeptBut (· = place) fs files := by
  unfold replaceFile at h
  split at h
  · cases h
  · next temp staged hstage =>
    split at h
    · cases h
    · next renamed hrename =>
      cases h
      obtain ⟨place, hlocate, hhidden, hholds, -, hkept⟩ :=
        (FileSystem.staged_of_stage hstage).rename hrename
      exact ⟨place, hlocate, hhidden, hholds, hkept.mono fun _ => by simp⟩

/-! ## The styles -/

/-- The path of the stylesheet, if there is one, leads to a location. -/
def StylesAt (job : Job) (fs : FileSystem) (place : Location) : Prop :=
  ∃ target, job.styleOutput = some target ∧ fs.locate target = .ok place

/-- If the styles are not written, nothing has changed. -/
theorem of_writeStyles_eq_error (h : job.writeStyles fs content = (.error e, files)) :
    KeptBut (fun _ => False) fs files := by
  unfold writeStyles at h
  split at h
  · exact of_replaceFile_eq_error h
  · cases h

/-- If the styles are written, the path of the stylesheet leads to them, and nothing else has
changed. -/
theorem of_writeStyles_eq_ok (h : job.writeStyles fs content = (.ok (), files)) :
    KeptBut (job.StylesAt fs) fs files ∧
      (∀ place, job.StylesAt fs place →
        ¬ Hidden place ∧ files.node? place = some (.file (Utf8.encode content))) ∧
      ∀ target, job.styleOutput = some target → ∃ place, fs.locate target = .ok place := by
  unfold writeStyles at h
  split at h
  · next target htarget =>
    obtain ⟨place, hlocate, hhidden, hholds, hkept⟩ := of_replaceFile_eq_ok h
    refine ⟨hkept.mono ?_, ?_, ?_⟩
    · rintro _ rfl
      exact ⟨target, htarget, hlocate⟩
    · rintro other ⟨target', htarget', hlocate'⟩
      obtain rfl := Option.some.inj (htarget.symm.trans htarget')
      obtain rfl := Except.ok.inj (hlocate.symm.trans hlocate')
      exact ⟨hhidden, hholds⟩
    · intro target' htarget'
      obtain rfl := Option.some.inj (htarget.symm.trans htarget')
      exact ⟨place, hlocate⟩
  · next hnone =>
    cases h
    refine ⟨⟨.refl _, fun _ _ => rfl⟩, ?_, ?_⟩
    · rintro place ⟨target, htarget, -⟩
      rw [hnone] at htarget
      cases htarget
    · intro target htarget
      rw [hnone] at htarget
      cases htarget

/-- The stylesheet is at the same location in files with the same directories. -/
theorem stylesAt_iff (job : Job) (h : FileSystem.SameDirectories fs files) (place : Location) :
    job.StylesAt files place ↔ job.StylesAt fs place :=
  exists_congr fun _ => and_congr_right fun _ => h.locate_eq_ok_iff

/-! ## Both files -/

/-- If writing fails, nothing has changed but perhaps the stylesheet, which then holds the new
styles. -/
theorem of_write_eq_error (h : job.write fs product = (.error e, files)) :
    KeptBut (job.StylesAt fs) fs files ∧ ∀ place, job.StylesAt fs place →
      files.node? place = fs.node? place ∨
        ¬ Hidden place ∧ files.node? place = some (.file (Utf8.encode product.css)) := by
  unfold write at h
  split at h
  · cases h
    exact ⟨⟨.refl _, fun _ _ => rfl⟩, fun _ _ => .inl rfl⟩
  next temp staged hstage =>
  have hstaged := FileSystem.staged_of_stage hstage
  split at h
  · -- the styles failed, so nothing but the temporary file is there
    next middle hstyles =>
    cases h
    have hkept := (hstaged.keep (of_writeStyles_eq_error hstyles) id).discard
    exact ⟨hkept.mono fun _ => by simp, fun place _ => .inl (hkept.node?_eq place (by simp))⟩
  · next middle hstyles =>
    split at h
    · -- the styles are written, and the bundle is not
      cases h
      obtain ⟨hkept, hheld, -⟩ := of_writeStyles_eq_ok hstyles
      have hnext := hstaged.keep hkept fun htemp => (hheld temp htemp).1 hstaged.hidden
      have hat := job.stylesAt_iff hstaged.kept.toSameDirectories
      refine ⟨hnext.discard.mono fun place hplace => (hat place).1 (by simpa using hplace),
        fun place hplace => .inr ?_⟩
      obtain ⟨hhidden, hholds⟩ := hheld place ((hat place).2 hplace)
      rw [hnext.keptBut_discard.node?_eq place fun htemp => hhidden (htemp ▸ hnext.hidden), hholds]
      exact ⟨hhidden, rfl⟩
    · cases h

/-- If writing succeeds, the paths of the two files lead to what was written, and nothing else has
changed. -/
theorem of_write_eq_ok (h : job.write fs product = (.ok (), files)) :
    ∃ place, fs.locate job.output = .ok place ∧ ¬ Hidden place ∧
      files.node? place = some (.file (Utf8.encode product.script)) ∧
      (∀ other, job.StylesAt fs other → ¬ Hidden other ∧ (other ≠ place →
        files.node? other = some (.file (Utf8.encode product.css)))) ∧
      (∀ target, job.styleOutput = some target → ∃ other, fs.locate target = .ok other) ∧
      KeptBut (fun other => job.StylesAt fs other ∨ other = place) fs files := by
  unfold write at h
  split at h
  · cases h
  next temp staged hstage =>
  have hstaged := FileSystem.staged_of_stage hstage
  split at h
  · cases h
  next middle hstyles =>
  split at h
  · cases h
  next renamed hrename =>
  cases h
  obtain ⟨hkept, hheld, hlocates⟩ := of_writeStyles_eq_ok hstyles
  have hnext := hstaged.keep hkept fun htemp => (hheld temp htemp).1 hstaged.hidden
  have hat := job.stylesAt_iff hstaged.kept.toSameDirectories
  obtain ⟨place, hlocate, hplace, hholds, hlast, hall⟩ := hnext.rename hrename
  refine ⟨place, hlocate, hplace, hholds, fun other hother => ?_, fun target htarget => ?_,
    hall.mono fun other hchanged => ?_⟩
  · obtain ⟨hhidden, hcss⟩ := hheld other ((hat other).2 hother)
    refine ⟨hhidden, fun hne => ?_⟩
    rw [hlast.node?_eq other, hcss]
    rintro (rfl | heq)
    · exact hhidden hnext.hidden
    · exact hne heq
  · obtain ⟨other, hother⟩ := hlocates target htarget
    exact ⟨other, hstaged.kept.locate_eq_ok_iff.1 hother⟩
  · rw [← hat]
    simpa using hchanged

/-! ## Builds -/

/-- The compiler of a job, if it has one, leaves the files as they are. -/
def KeepsFiles (job : Job) (fs : FileSystem) : Prop :=
  ∀ command, job.compiling = true → CompilerCommand.ofLine? job.compilerCommand = some command →
    ∀ markup, ((command.compiler markup).run.run fs).2 = fs

/-- A build leaves the files as they are if the compiler does, also when it fails. -/
theorem makeWith_keeps {compiler : Option Compiler}
    (h : ∀ run, compiler = some run → ∀ markup, ((run markup).run.run fs).2 = fs) :
    (job.makeWith fs compiler).2 = fs := by
  have hkeeps : Linker.KeepsFiles { lookup := job.lookup fs, compiler } fs := by
    rintro after ⟨run, markup, hrun, rfl⟩
    exact h run hrun markup
  exact hkeeps.eq_of_becomes (Linker.becomes_graph _ fs job.root)

/-- What a job makes leaves the files as they are if its compiler does, also when it fails. -/
theorem make_keeps (h : job.KeepsFiles fs) : (job.make fs).2 = fs := by
  unfold make
  split
  · next hcompiling =>
    split
    · next command hcommand =>
      refine makeWith_keeps fun run hrun markup => ?_
      obtain rfl := Option.some.inj hrun
      exact h command hcompiling hcommand markup
    · rfl
  · exact makeWith_keeps nofun

/-! ## Both steps -/

/-- The files after a write that failed. -/
structure FailsSafely (job : Job) (fs : FileSystem) (product : Product) (files : FileSystem) :
    Prop where
  /-- Nothing has changed but perhaps the stylesheet. -/
  kept : KeptBut (job.StylesAt fs) fs files
  /-- The path of the bundle leads to what it led to. -/
  output : ∀ node, files.stat job.output = .ok node ↔ fs.stat job.output = .ok node
  /-- The stylesheet is as it was, or it holds the new styles. -/
  styles : ∀ place, job.StylesAt fs place → files.node? place = fs.node? place ∨
    files.node? place = some (.file (Utf8.encode product.css))
  /-- No temporary file is left. -/
  hidden : ∀ place, Hidden place → files.node? place = fs.node? place

/-- The files after a write that succeeded. -/
structure Succeeds (job : Job) (fs : FileSystem) (product : Product) (files : FileSystem) :
    Prop where
  /-- Nothing has changed but the two files. -/
  kept : KeptBut (fun place => job.StylesAt fs place ∨ fs.locate job.output = .ok place) fs files
  /-- The path of the bundle leads to the bundle. -/
  output : files.readBytes job.output = .ok (Utf8.encode product.script)
  /-- The path of the stylesheet leads to the styles. -/
  styles : ∀ target, job.styleOutput = some target →
    files.readBytes target = .ok (Utf8.encode product.css)
  /-- No temporary file is left. -/
  hidden : ∀ place, Hidden place → files.node? place = fs.node? place

/-- The paths of the two files do not lead to the same location. -/
def OutputsDiffer (job : Job) (fs : FileSystem) : Prop :=
  ∀ place, job.StylesAt fs place → fs.locate job.output ≠ .ok place

/-- A write that fails leaves the bundle as it was. -/
theorem failsSafely_of_write (hdiffer : job.OutputsDiffer fs)
    (h : job.write fs product = (.error e, files)) : job.FailsSafely fs product files := by
  obtain ⟨hkept, hstyles⟩ := of_write_eq_error h
  refine ⟨hkept, fun node => ?_, fun place hplace => ?_, fun place hplace => ?_⟩
  · exact hkept.stat_eq_ok_iff fun place hplace hat => hdiffer place hat hplace
  · exact (hstyles place hplace).imp_right And.right
  · by_cases hat : job.StylesAt fs place
    · rcases hstyles place hat with heq | ⟨hhidden, -⟩
      · exact heq
      · exact absurd hplace hhidden
    · exact hkept.node?_eq place hat

/-- After a write that succeeds, both files are complete. -/
theorem succeeds_of_write (hdiffer : job.OutputsDiffer fs)
    (h : job.write fs product = (.ok (), files)) : job.Succeeds fs product files := by
  obtain ⟨place, hlocate, hplace, hholds, hstyles, hlocates, hkept⟩ := of_write_eq_ok h
  refine ⟨hkept.mono ?_, ?_, fun target htarget => ?_, fun other hother => ?_⟩
  · rintro other (hat | rfl)
    · exact .inl hat
    · exact .inr hlocate
  · exact FileSystem.readBytes_of_node? (hkept.locate_eq_ok_iff.2 hlocate) hholds
  · obtain ⟨other, hother⟩ := hlocates target htarget
    have hat : job.StylesAt fs other := ⟨target, htarget, hother⟩
    have hne : other ≠ place := fun heq => hdiffer other hat (heq ▸ hlocate)
    exact FileSystem.readBytes_of_node? (hkept.locate_eq_ok_iff.2 hother)
      ((hstyles other hat).2 hne)
  · refine hkept.node?_eq other ?_
    rintro (hat | rfl)
    · exact (hstyles other hat).1 hother
    · exact hplace hother

/-- An earlier bundle, and a directory. -/
def outputTree : FileSystem where
  nodes := [(["bundle.js".toList], .file (Utf8.encode "old".toList)), (["css".toList], .directory)]

/-- A job that writes over the earlier bundle, and the styles to a path. -/
def outputJob (styles : String) : Job where
  root := ⟨"a.js".toList⟩
  output := ⟨"bundle.js".toList⟩
  styleOutput := some ⟨styles.toList⟩

/-- A product that is not the earlier one. -/
def outputProduct : Product where
  entry := 1
  moduleCount := 1
  script := "new".toList
  css := "all".toList

end Job

end ScriptBundle
