/-
# Files with other contents

Where paths lead, which of them are files or directories, and what stands in a directory does not
depend on the contents of files.  So targets lead to the same files, and the same targets name vendor
libraries, whatever stands in the files.

## Main content

- `FileSystem.SameShape` says that two file systems have the same files and directories;
  `FileSystem.sameShape_insert`: writing into a file keeps them.
- `SameShape.isFile_eq`, `SameShape.isDirectory_eq` and `SameShape.isSome_node?_eq`: what is the same.
- `Lookup.file?_eq_of_sameShape` and `Job.namesLibrary_eq_of_sameShape`: targets lead to the same
  places.
-/
import ScriptBundle.Proofs.Build.Libraries
import ScriptBundle.Proofs.FileSystem.Spelling

namespace ScriptBundle

/-- What stands somewhere, without the content of a file. -/
def Node.erased : Node → Node
  | .file _ => .file []
  | .directory => .directory
  | .nullDevice => .nullDevice

namespace FileSystem

variable {fs fs' : FileSystem} {p : Path} {place : Location} {name : Text}

/-- Two file systems have the same files and directories, whatever stands in the files. -/
structure SameShape (fs fs' : FileSystem) : Prop where
  /-- The working directory is the same. -/
  cwd_eq : fs'.cwd = fs.cwd
  /-- It is there in both or in none. -/
  adrift_eq : fs'.adrift = fs.adrift
  /-- The same stands everywhere, up to the contents of files. -/
  erased_eq : ∀ place, (fs'.node? place).map Node.erased = (fs.node? place).map Node.erased

/-- Writing into a file keeps all files and directories. -/
theorem sameShape_insert {content : Bytes} (h : fs.node? place = some (.file content))
    (content' : Bytes) : fs.SameShape (fs.insert place (.file content')) where
  cwd_eq := rfl
  adrift_eq := rfl
  erased_eq := by
    intro other
    have hne : place ≠ [] := by
      rintro rfl
      cases h
    rw [node?_insert fs hne]
    split
    · next heq =>
      rw [heq, h]
      rfl
    · rfl

namespace SameShape

/-- Files and directories that are the same as third ones are the same. -/
theorem trans {fs'' : FileSystem} (h : fs.SameShape fs') (h' : fs'.SameShape fs'') :
    fs.SameShape fs'' where
  cwd_eq := h'.cwd_eq.trans h.cwd_eq
  adrift_eq := h'.adrift_eq.trans h.adrift_eq
  erased_eq := fun place => (h'.erased_eq place).trans (h.erased_eq place)

/-- Something stands at the same locations. -/
theorem isSome_node?_eq (h : fs.SameShape fs') (place : Location) :
    (fs'.node? place).isSome = (fs.node? place).isSome := by
  have herased := congrArg Option.isSome (h.erased_eq place)
  rwa [Option.isSome_map, Option.isSome_map] at herased

/-- What stands at a location, in both file systems. -/
theorem node?_cases (h : fs.SameShape fs') (place : Location) :
    fs'.node? place = fs.node? place ∨
      ∃ content content', fs.node? place = some (.file content) ∧
        fs'.node? place = some (.file content') := by
  have herased := h.erased_eq place
  cases hnode : fs.node? place with
  | none =>
    rw [hnode] at herased
    exact .inl (Option.map_eq_none_iff.1 herased)
  | some node =>
    rw [hnode] at herased
    obtain ⟨node', hnode', heq⟩ := Option.map_eq_some_iff.1 herased
    rw [hnode']
    cases node <;> cases node' <;> cases heq
    · exact .inr ⟨_, _, rfl, rfl⟩
    · exact .inl rfl
    · exact .inl rfl

/-- A directory stands at the same locations. -/
theorem directory_iff (h : fs.SameShape fs') (place : Location) :
    fs'.node? place = some .directory ↔ fs.node? place = some .directory := by
  rcases h.node?_cases place with heq | ⟨content, content', hnode, hnode'⟩
  · rw [heq]
  · simp [hnode, hnode']

/-- Paths lead to the same locations. -/
theorem locate_eq (h : fs.SameShape fs') (p : Path) : fs'.locate p = fs.locate p := by
  have henter : fs'.enter = fs.enter := by
    funext place piece
    unfold enter
    rcases h.node?_cases place with heq | ⟨content, content', hnode, hnode'⟩
    · rw [heq]
    · rw [hnode, hnode']
  simp only [locate, follow, start, h.cwd_eq, h.adrift_eq, henter]

/-- The same paths lead to files. -/
theorem isFile_eq (h : fs.SameShape fs') (p : Path) : fs'.isFile p = fs.isFile p := by
  rw [Bool.eq_iff_iff, isFile_iff, isFile_iff]
  refine exists_congr fun loc => ?_
  simp only [exists_and_left, h.locate_eq]
  refine and_congr_right fun _ => ?_
  rcases h.node?_cases loc with heq | ⟨content, content', hnode, hnode'⟩
  · rw [heq]
  · simp [hnode, hnode']

/-- The same paths lead to directories. -/
theorem isDirectory_eq (h : fs.SameShape fs') (p : Path) : fs'.isDirectory p = fs.isDirectory p := by
  rw [Bool.eq_iff_iff, isDirectory_iff, isDirectory_iff]
  simp only [h.locate_eq, h.directory_iff]

end SameShape

/-! ## Entries of directories -/

/-- The entries of a directory are the names of what stands in it. -/
theorem mem_entries_iff : name ∈ fs.entries place ↔ (fs.node? (place ++ [name])).isSome := by
  have hentry (location : Location) :
      (if location.dropLast = place then location.getLast? else none) = some name ↔
        location = place ++ [name] := by
    rw [Option.ite_none_right_eq_some, List.getLast?_eq_some_iff]
    constructor
    · rintro ⟨hplace, front, rfl⟩
      rw [← hplace, List.dropLast_concat]
    · rintro rfl
      exact ⟨List.dropLast_concat, place, rfl⟩
  have hne : place ++ [name] ≠ [] := List.append_ne_nil_of_right_ne_nil _ (List.cons_ne_nil _ _)
  simp only [entries, List.mem_filterMap, hentry]
  rw [node?, if_neg hne, ← Option.ne_none_iff_isSome, Ne, List.lookup_eq_none_iff]
  simp only [bne_iff_ne, not_forall, not_not, exists_prop]
  exact exists_congr fun entry => and_congr_right fun _ => eq_comm

/-- What is listed of a directory. -/
theorem mem_list?_iff :
    (∃ entries, fs.list? p = some entries ∧ name ∈ entries) ↔
      ∃ place, fs.locate p = .ok place ∧ fs.node? place = some .directory ∧
        (fs.node? (place ++ [name])).isSome := by
  unfold list?
  cases fs.locate p with
  | error fault => simp
  | ok place => simp [mem_entries_iff]

end FileSystem

/-! ## Targets -/

variable {fs fs' : FileSystem}

/-- Paths lead to the same files. -/
theorem Lookup.file?_eq_of_sameShape (h : fs.SameShape fs') {l l' : Lookup}
    (hextensions : l'.extensions = l.extensions) (p : Path) : l'.file? fs' p = l.file? fs p := by
  have hisFile : fs'.isFile = fs.isFile := funext h.isFile_eq
  simp only [file?, foldedFile?, h.isDirectory_eq, hisFile, hextensions]

/-- The same targets name vendor libraries. -/
theorem Job.namesLibrary_eq_of_sameShape (h : fs.SameShape fs') (job : Job) (target : Text) :
    (job.lookup fs').namesLibrary target = (job.lookup fs).namesLibrary target := by
  have hlist (dir : Path) (name : Text) :
      (∃ entries, fs'.list? dir = some entries ∧ name ∈ entries) ↔
        ∃ entries, fs.list? dir = some entries ∧ name ∈ entries := by
    simp only [FileSystem.mem_list?_iff, h.locate_eq, h.directory_iff, h.isSome_node?_eq]
  have hlibrary (fs : FileSystem) (name : Text) :
      job.IsLibrary fs name ↔ name ∈ job.libraries ∨ ∃ dir ∈ job.libraryDirs, ∃ entry,
        (∃ entries, fs.list? dir = some entries ∧ entry ∈ entries) ∧ Path.stem entry = name := by
    unfold IsLibrary
    refine or_congr_right (exists_congr fun dir => and_congr_right fun _ => ?_)
    constructor
    · rintro ⟨entries, hentries, entry, hentry, hstem⟩
      exact ⟨entry, ⟨entries, hentries, hentry⟩, hstem⟩
    · rintro ⟨entry, ⟨entries, hentries, hentry⟩, hstem⟩
      exact ⟨entries, hentries, entry, hentry, hstem⟩
  rw [Bool.eq_iff_iff, namesLibrary_iff, namesLibrary_iff]
  simp only [hlibrary, hlist]

end ScriptBundle
