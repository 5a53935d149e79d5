/-
# What replacing a file keeps

A file is staged and renamed without any other file being touched, and directories neither come nor
go on the way.  So every path leads where it led before, and only the path of the file itself leads
to something new there.

## Main content

- `FileSystem.SameDirectories` says that two file systems have the same directories;
  `SameDirectories.locate_eq_ok_iff`: paths lead to the same locations in both.
- `FileSystem.KeptBut` says that nothing is changed but at some locations;
  `KeptBut.stat_eq_ok_iff`: paths to other locations lead to what they led to.
- `FileSystem.Staged` says that a file waits at a temporary place: `staged_of_stage` is how it comes
  there, `Staged.discard` and `Staged.rename` are the two ways in which it leaves.
-/
import ScriptBundle.FileSystem.Replace
import ScriptBundle.Proofs.FileSystem.Spelling

namespace ScriptBundle

namespace FileSystem

variable {fs fs' files : FileSystem} {p target : Path} {place loc temp : Location}
  {pieces : List Text} {content : Bytes}

/-! ## Paths and directories -/

/-- Two file systems have the same directories, and the same one of them is the working
directory. -/
structure SameDirectories (fs fs' : FileSystem) : Prop where
  /-- The working directory is at the same location. -/
  cwd : fs'.cwd = fs.cwd
  /-- The working directory was taken away from both or from none. -/
  adrift : fs'.adrift = fs.adrift
  /-- Directories stand at the same locations. -/
  directory : ∀ place, fs'.node? place = some .directory ↔ fs.node? place = some .directory

namespace SameDirectories

/-- A file system has the directories that it has. -/
theorem refl (fs : FileSystem) : SameDirectories fs fs := ⟨rfl, rfl, fun _ => .rfl⟩

/-- Having the same directories goes both ways. -/
theorem symm (h : SameDirectories fs fs') : SameDirectories fs' fs :=
  ⟨h.cwd.symm, h.adrift.symm, fun place => (h.directory place).symm⟩

/-- Having the same directories passes on. -/
theorem trans (h : SameDirectories fs fs') (h' : SameDirectories fs' files) :
    SameDirectories fs files :=
  ⟨h'.cwd.trans h.cwd, h'.adrift.trans h.adrift,
    fun place => (h'.directory place).trans (h.directory place)⟩

/-- A path starts at the same place. -/
theorem start_eq (h : SameDirectories fs fs') (p : Path) (pieces : List Text) :
    fs'.start p pieces = fs.start p pieces := by
  unfold start
  rw [h.cwd, h.adrift]

/-- A piece leads to the same location. -/
theorem enter_of_enter (h : SameDirectories fs fs') {piece : Text}
    (henter : fs.enter place piece = .ok loc) : fs'.enter place piece = .ok loc := by
  have hdirectory : fs.node? place = some .directory := by
    unfold enter at henter
    split at henter
    · cases henter
    · cases henter
    · cases henter
    · assumption
  unfold enter at *
  rw [(h.directory place).2 hdirectory]
  rw [hdirectory] at henter
  exact henter

/-- Pieces lead to the same location. -/
theorem foldlM_of_foldlM (h : SameDirectories fs fs')
    (hfold : pieces.foldlM fs.enter place = .ok loc) :
    pieces.foldlM fs'.enter place = .ok loc := by
  induction pieces generalizing place with
  | nil => exact hfold
  | cons piece pieces ih =>
    obtain ⟨next, henter, hrest⟩ := foldlM_enter_cons.1 hfold
    exact foldlM_enter_cons.2 ⟨next, h.enter_of_enter henter, ih hrest⟩

/-- Pieces of a path lead to the same location. -/
theorem follow_of_follow (h : SameDirectories fs fs') (hfollow : fs.follow p pieces = .ok loc) :
    fs'.follow p pieces = .ok loc := by
  obtain ⟨place, rest, hstart, hrest⟩ := FileSystem.follow_eq_ok_iff.1 hfollow
  rw [← h.start_eq] at hstart
  exact FileSystem.follow_eq_ok_iff.2 ⟨place, rest, hstart, h.foldlM_of_foldlM hrest⟩

/-- A path leads to the same location. -/
theorem locate_of_locate (h : SameDirectories fs fs') (hlocate : fs.locate p = .ok loc) :
    fs'.locate p = .ok loc := by
  obtain ⟨hcheck, hfollow⟩ := FileSystem.locate_eq_ok_iff.1 hlocate
  exact FileSystem.locate_eq_ok_iff.2 ⟨hcheck, h.follow_of_follow hfollow⟩

/-- A path leads to a location in both file systems or in none. -/
theorem locate_eq_ok_iff (h : SameDirectories fs fs') :
    fs'.locate p = .ok loc ↔ fs.locate p = .ok loc :=
  ⟨h.symm.locate_of_locate, h.locate_of_locate⟩

/-- What comes or goes at one location, without being a directory before or after, leaves the
directories as they are. -/
theorem of_node? (hcwd : fs'.cwd = fs.cwd) (hadrift : fs'.adrift = fs.adrift) {node : Option Node}
    (hnode : ∀ other, fs'.node? other = if other = place then node else fs.node? other)
    (hbefore : fs.node? place ≠ some .directory) (hafter : node ≠ some .directory) :
    SameDirectories fs fs' := by
  refine ⟨hcwd, hadrift, fun other => ?_⟩
  rw [hnode]
  split_ifs with hother
  · subst hother
    exact iff_of_false hafter hbefore
  · exact .rfl

end SameDirectories

/-! ## What is kept -/

/-- Nothing is changed but at some locations, and no directory comes or goes. -/
structure KeptBut (changed : Location → Prop) (fs fs' : FileSystem) : Prop
    extends SameDirectories fs fs' where
  /-- At all other locations stands what stood there. -/
  node?_eq : ∀ place, ¬ changed place → fs'.node? place = fs.node? place

namespace KeptBut

variable {changed changed' : Location → Prop}

/-- What is kept twice is kept. -/
theorem trans (h : KeptBut changed fs fs') (h' : KeptBut changed' fs' files) :
    KeptBut (fun place => changed place ∨ changed' place) fs files where
  toSameDirectories := h.toSameDirectories.trans h'.toSameDirectories
  node?_eq place hplace := by
    rw [not_or] at hplace
    rw [h'.node?_eq place hplace.2, h.node?_eq place hplace.1]

/-- What is kept is kept where more may change. -/
theorem mono (h : KeptBut changed fs fs') (hle : ∀ place, changed place → changed' place) :
    KeptBut changed' fs fs' :=
  ⟨h.toSameDirectories, fun place hplace => h.node?_eq place (mt (hle place) hplace)⟩

/-- A path that does not lead to a changed location leads to what it led to. -/
theorem stat_eq_ok_iff (h : KeptBut changed fs fs')
    (hp : ∀ loc, fs.locate p = .ok loc → ¬ changed loc) {node : Node} :
    fs'.stat p = .ok node ↔ fs.stat p = .ok node := by
  rw [FileSystem.stat_eq_ok_iff, FileSystem.stat_eq_ok_iff]
  refine exists_congr fun loc => ?_
  rw [h.locate_eq_ok_iff]
  exact and_congr_right fun hloc => by rw [h.node?_eq loc (hp loc hloc)]

/-- A file that is put where no directory stands changes nothing else. -/
theorem insert (hplace : place ≠ []) (h : fs.node? place ≠ some .directory) (content : Bytes) :
    KeptBut (· = place) fs (fs.insert place (.file content)) where
  toSameDirectories := .of_node? rfl rfl (node?_insert fs hplace (.file content)) h nofun
  node?_eq other hother := by rw [node?_insert fs hplace, if_neg hother]

/-- A file that is taken away changes nothing else. -/
theorem erase (hplace : place ≠ []) (h : fs.node? place ≠ some .directory) :
    KeptBut (· = place) fs (fs.erase place) where
  toSameDirectories := .of_node? rfl rfl (node?_erase fs hplace) h nofun
  node?_eq other hother := by rw [node?_erase fs hplace, if_neg hother]

end KeptBut

/-- The bytes of a file are those that stand at its location. -/
theorem readBytes_of_node? (hloc : fs.locate p = .ok loc)
    (hnode : fs.node? loc = some (.file content)) : fs.readBytes p = .ok content := by
  unfold readBytes
  rw [bind_eq_ok_iff]
  exact ⟨.file content, stat_eq_ok_iff.2 ⟨loc, hloc, hnode⟩, rfl⟩

/-! ## Where a file is renamed to -/

/-- A location is hidden if no path leads to it: its name begins with a slash. -/
def Hidden (place : Location) : Prop := ∃ directory name, place = directory ++ ['/' :: name]

/-- A temporary place is hidden. -/
theorem hidden_tempPlace (fs : FileSystem) (directory : Location) :
    Hidden (fs.tempPlace directory) :=
  ⟨directory, List.replicate fs.longestName '/', rfl⟩

/-- A hidden location is not the root. -/
theorem Hidden.ne_nil (h : Hidden place) : place ≠ [] := by
  obtain ⟨directory, name, rfl⟩ := h
  simp

/-- More pieces behind those that a path is followed by start at the same place. -/
theorem start_append {rest : List Text} (h : fs.start p pieces = .ok (place, rest))
    (more : List Text) : fs.start p (pieces ++ more) = .ok (place, rest ++ more) := by
  unfold start at *
  split at h
  · next habsolute =>
    cases h
    rw [if_pos habsolute]
  · next hrelative =>
    rw [if_neg hrelative]
    split at h
    · next hadrift =>
      rw [if_pos hadrift]
      split at h
      · next hdrop =>
        cases h
        rw [List.dropWhile_append, hdrop]
        rfl
      · cases h
    · next hhere =>
      cases h
      rw [if_neg hhere]

/-- One more piece behind those that a path is followed by leads one step on. -/
theorem follow_concat {piece : Text} (h : fs.follow p pieces = .ok place)
    (henter : fs.enter place piece = .ok loc) : fs.follow p (pieces ++ [piece]) = .ok loc := by
  obtain ⟨first, rest, hstart, hrest⟩ := follow_eq_ok_iff.1 h
  refine follow_eq_ok_iff.2 ⟨first, rest ++ [piece], start_append hstart [piece], ?_⟩
  rw [List.foldlM_append, bind_eq_ok_iff]
  exact ⟨place, hrest, foldlM_enter_cons.2 ⟨loc, henter, rfl⟩⟩

/-- A name leads from a directory to the entry with this name. -/
theorem eq_of_enter_name {name : Text} (h : fs.enter place name = .ok loc) (hnil : name ≠ [])
    (hdot : name ≠ ['.']) (hdots : name ≠ ['.', '.']) : loc = place ++ [name] := by
  unfold enter at h
  split at h
  · cases h
  · cases h
  · cases h
  · rw [if_neg (not_or.2 ⟨hnil, hdot⟩), if_neg hdots] at h
    split at h
    · cases h
    · exact (Except.ok.inj h).symm

/-- What a file is renamed to has a name that stands at the end of its path. -/
theorem exists_name_of_renameTarget (h : fs.renameTarget target = .ok place) :
    ∃ directory name, checkPath target = .ok () ∧ target.pieces.getLast? = some name ∧
      fs.follow target target.pieces.dropLast = .ok directory ∧
      fs.enter directory name = .ok place ∧ place = directory ++ [name] ∧
      fs.node? place ≠ some .directory := by
  unfold renameTarget at h
  split at h
  · cases h
  obtain ⟨⟨⟩, hcheck, h⟩ := bind_eq_ok_iff.1 h
  dsimp only at h
  split at h
  · cases h
  · cases h
  next name hname hlast =>
  obtain ⟨directory, hfollow, h⟩ := bind_eq_ok_iff.1 h
  obtain ⟨found, henter, h⟩ := bind_eq_ok_iff.1 h
  split_ifs at h with hdots hslash
  -- without a slash at its end, the path is taken as it is
  · rw [not_not] at hslash
    rw [hslash, List.length_nil, List.drop_zero, List.reverse_reverse] at hlast hfollow
    rw [not_or] at hdots
    have hplace := eq_of_enter_name henter hname hdots.1 hdots.2
    split at h
    · cases h
    · next hnode =>
      cases h
      exact ⟨directory, name, hcheck, hlast, hfollow, henter, hplace, hnode⟩

/-- A file is renamed to where its path leads. -/
theorem locate_of_renameTarget (h : fs.renameTarget target = .ok place) :
    fs.locate target = .ok place := by
  obtain ⟨directory, name, hcheck, hlast, hfollow, henter, -⟩ := exists_name_of_renameTarget h
  have hpieces := follow_concat hfollow henter
  rw [List.dropLast_append_getLast? name hlast] at hpieces
  exact locate_eq_ok_iff.2 ⟨hcheck, hpieces⟩

/-- What a file is renamed to is not hidden. -/
theorem not_hidden_of_renameTarget (h : fs.renameTarget target = .ok place) : ¬ Hidden place := by
  obtain ⟨directory, name, -, hlast, -, -, rfl, -⟩ := exists_name_of_renameTarget h
  rintro ⟨directory', name', heq⟩
  obtain ⟨-, hname⟩ := List.append_inj' heq rfl
  have hslash := Path.slash_not_mem_of_mem_pieces (List.mem_of_getLast? hlast)
  rw [List.singleton_inj.1 hname] at hslash
  exact hslash (List.mem_cons_self ..)

/-! ## Staged files -/

/-- A file waits at a temporary place: nothing stood there before, no path leads there, and all else
is kept but at some locations. -/
structure Staged (changed : Location → Prop) (content : Bytes) (temp : Location)
    (fs files : FileSystem) : Prop where
  /-- No path leads to the temporary place. -/
  hidden : Hidden temp
  /-- Nothing stood at the temporary place. -/
  absent : fs.node? temp = none
  /-- The temporary file has the content. -/
  holds : files.node? temp = some (.file content)
  /-- All else is kept. -/
  kept : KeptBut (fun place => place = temp ∨ changed place) fs files

/-- Staging puts a file at a temporary place and changes nothing else. -/
theorem staged_of_stage (h : fs.stage target content = .ok (temp, files)) :
    Staged (fun _ => False) content temp fs files := by
  obtain ⟨directory, -, h⟩ := bind_eq_ok_iff.1 h
  split at h
  · cases h
  · cases h
  · cases h
  · cases h
    have hhidden := hidden_tempPlace fs directory
    have habsent := node?_tempPlace fs directory
    refine ⟨hhidden, habsent, ?_, ?_⟩
    · rw [node?_insert fs hhidden.ne_nil, if_pos rfl]
    · refine (KeptBut.insert hhidden.ne_nil ?_ content).mono fun place => .inl
      rw [habsent]
      nofun

namespace Staged

variable {changed changed' : Location → Prop}

/-- A file waits on while other locations change. -/
theorem keep (h : Staged changed content temp fs files) (h' : KeptBut changed' files fs')
    (htemp : ¬ changed' temp) :
    Staged (fun place => changed place ∨ changed' place) content temp fs fs' where
  hidden := h.hidden
  absent := h.absent
  holds := by rw [h'.node?_eq temp htemp, h.holds]
  kept := (h.kept.trans h').mono fun _ => or_assoc.1

/-- Taking the temporary file away changes nothing else. -/
theorem keptBut_discard (h : Staged changed content temp fs files) :
    KeptBut (· = temp) files (files.discard temp) := by
  refine .erase h.hidden.ne_nil ?_
  rw [h.holds]
  nofun

/-- When the temporary file is taken away, nothing is left of it. -/
theorem discard (h : Staged changed content temp fs files) :
    KeptBut changed fs (files.discard temp) := by
  have hkept := h.kept.trans h.keptBut_discard
  refine ⟨hkept.toSameDirectories, fun place hplace => ?_⟩
  by_cases htemp : place = temp
  · subst htemp
    rw [FileSystem.discard, node?_erase files h.hidden.ne_nil, if_pos rfl, h.absent]
  · exact hkept.node?_eq place (by simp [htemp, hplace])

/-- When the temporary file is renamed, it stands where its path leads, and nothing else is changed
by that. -/
theorem rename (h : Staged changed content temp fs files)
    (hrename : files.rename temp target = .ok fs') :
    ∃ place, fs.locate target = .ok place ∧ ¬ Hidden place ∧
      fs'.node? place = some (.file content) ∧
      KeptBut (fun other => other = temp ∨ other = place) files fs' ∧
      KeptBut (fun other => changed other ∨ other = place) fs fs' := by
  obtain ⟨place, htarget, hmove⟩ := bind_eq_ok_iff.1 hrename
  rw [h.holds] at hmove
  obtain rfl := Except.ok.inj hmove
  obtain ⟨directory, name, -, -, -, -, hplace, hnode⟩ := exists_name_of_renameTarget htarget
  have hhidden := not_hidden_of_renameTarget htarget
  have hne : place ≠ temp := fun heq => hhidden (heq ▸ h.hidden)
  have hnil : place ≠ [] := by simp [hplace]
  have hinsert : KeptBut (· = place) (files.discard temp)
      ((files.erase temp).insert place (.file content)) := by
    refine .insert hnil ?_ content
    rwa [h.keptBut_discard.node?_eq place hne]
  refine ⟨place, ?_, hhidden, ?_, h.keptBut_discard.trans hinsert, h.discard.trans hinsert⟩
  · exact h.kept.locate_eq_ok_iff.1 (locate_of_renameTarget htarget)
  · rw [node?_insert _ hnil, if_pos rfl]

end Staged

end FileSystem

end ScriptBundle
