/-
# Files seen from a directory further down

From a directory below the working directory, a path leads to where it leads from the working
directory with the directory in front of it, as long as the longer path is one that the system
follows.

## Main content

- `FileSystem.startIn` are the same files with another working directory.
- `FileSystem.locate_join`: where paths lead behind a directory; `FileSystem.stat_join`,
  `FileSystem.isFile_join`, `FileSystem.isDirectory_join` and `FileSystem.readText_join`: what stands
  there.
- `Lookup.file?_join`: the same files are found behind a directory.
-/
import ScriptBundle.Proofs.FileSystem.Location
import ScriptBundle.Proofs.Path.Prefix

namespace ScriptBundle

namespace FileSystem

open ScriptBundle.Path (AreNames ofNames)

variable {fs : FileSystem} {p : Path} {names : List Text} {loc : Location}

/-- The same files, with a directory below the working directory as the working directory. -/
def startIn (fs : FileSystem) (names : List Text) : FileSystem := { fs with cwd := fs.cwd ++ names }

/-- The system follows paths of this length. -/
def Fits (p : Path) : Prop := Utf8.size p.text < pathLimit

/-- Whether a path fits can be decided. -/
instance (p : Path) : Decidable (Fits p) := inferInstanceAs (Decidable (_ < _))

/-- What a possible path is. -/
theorem checkPath_eq_ok_iff : checkPath p = .ok () ↔ '\x00' ∉ p.text ∧ p.text ≠ [] ∧ Fits p := by
  unfold checkPath Fits
  split
  · next h => simp [h]
  · next h =>
    split
    · next h' => simp [h']
    · next h' =>
      split
      · next h'' => simp [Nat.not_lt.2 h'']
      · next h'' => simp [h, h', Nat.not_le.1 h'']

/-! ## Where paths lead -/

/-- A directory below the working directory that is given by names stands where the names lead. -/
structure StandsBelow (fs : FileSystem) (names : List Text) : Prop where
  /-- The directory is given by names. -/
  areNames : AreNames names
  /-- It is there. -/
  isDirectory : fs.isDirectory (ofNames names) = true

namespace StandsBelow

/-- The working directory is there, and the names lead from it to the directory. -/
theorem foldlM_enter (h : fs.StandsBelow names) :
    fs.adrift = false ∧ names.foldlM fs.enter fs.cwd = .ok (fs.cwd ++ names) := by
  obtain ⟨loc, hlocate, -⟩ := isDirectory_iff.1 h.isDirectory
  have hrelative := (Path.leading_eq_nil_iff.1 h.areNames.leading).1
  have hloc : loc = fs.cwd ++ names := by
    rw [← List.reverse_inj, reverse_of_locate hlocate, Path.walk_eq_foldl, h.areNames.components,
      Path.foldl_step_names, List.reverse_append]
  obtain ⟨place, rest, hstart, hrest⟩ := follow_eq_ok_iff.1 (locate_eq_ok_iff.1 hlocate).2
  rw [start, hrelative, if_neg Bool.false_ne_true, h.areNames.pieces] at hstart
  split at hstart
  · split at hstart
    · next hdrop =>
      -- no name is a climb
      have hmem : ['.', '.'] ∈ names.filter fun piece => (Path.ofPiece? piece).isSome := by
        rw [filter_eq_of_dropWhile_eq hdrop]
        exact List.mem_cons_self ..
      cases (h.areNames.isName _ (List.mem_of_mem_filter hmem)).2
    · cases hstart
  · next hhere =>
    cases hstart
    exact ⟨Bool.eq_false_iff.2 hhere, hloc ▸ hrest⟩

/-- A path is a possible one behind the directory if it is possible there and fits. -/
theorem checkPath_join (h : fs.StandsBelow names) (hne : p.text ≠ []) :
    checkPath ((ofNames names).join p) = .ok () ↔
      checkPath p = .ok () ∧ Fits ((ofNames names).join p) := by
  obtain ⟨loc, hlocate, -⟩ := isDirectory_iff.1 h.isDirectory
  obtain ⟨hzero, -, -⟩ := checkPath_eq_ok_iff.1 (locate_eq_ok_iff.1 hlocate).1
  rw [checkPath_eq_ok_iff, checkPath_eq_ok_iff]
  cases hp : p.isAbsolute with
  | true =>
    rw [Path.join_of_isAbsolute hp]
    exact ⟨fun hcheck => ⟨hcheck, hcheck.2.2⟩, fun hcheck => hcheck.1⟩
  | false =>
    have htext := h.areNames.text_join hp
    have hfits : Fits ((ofNames names).join p) → Fits p := by
      intro hfits
      rw [Fits, htext] at hfits
      refine Nat.lt_of_le_of_lt (size_le_of_sublist ?_) hfits
      exact (List.sublist_cons_self ..).trans (List.sublist_append_right ..)
    rw [htext]
    have hmem : '\x00' ∈ (ofNames names).text ++ '/' :: p.text ↔ '\x00' ∈ p.text := by
      rw [List.mem_append, List.mem_cons, or_iff_right hzero, or_iff_right (by decide)]
    rw [hmem]
    constructor
    · rintro ⟨hp, -, hjoin⟩
      exact ⟨⟨hp, hne, hfits hjoin⟩, hjoin⟩
    · rintro ⟨⟨hp, -, -⟩, hjoin⟩
      exact ⟨hp, htext ▸ Path.text_join_ne_nil _ hne, hjoin⟩

/-- A path is followed behind the directory as it is followed from there. -/
theorem follow_join (h : fs.StandsBelow names) (p : Path) :
    fs.follow ((ofNames names).join p) ((ofNames names).join p).pieces =
      (fs.startIn names).follow p p.pieces := by
  obtain ⟨hadrift, hnames⟩ := h.foldlM_enter
  have henter : (fs.startIn names).enter = fs.enter := rfl
  have hadrift' : (fs.startIn names).adrift = false := hadrift
  cases hp : p.isAbsolute with
  | true => simp only [follow, start, Path.join_of_isAbsolute hp, hp, if_true, henter]
  | false =>
    have hjoin := (Path.isAbsolute_join h.areNames p).trans hp
    rw [follow, follow, start, start, hjoin, hp, hadrift, hadrift', h.areNames.pieces_join hp]
    calc (names ++ p.pieces).foldlM fs.enter fs.cwd
        = names.foldlM fs.enter fs.cwd >>= fun place => p.pieces.foldlM fs.enter place :=
          List.foldlM_append ..
      _ = p.pieces.foldlM fs.enter (fs.cwd ++ names) := by rw [hnames]; rfl

/-- Where paths lead behind the directory. -/
theorem locate_join (h : fs.StandsBelow names) (hne : p.text ≠ []) :
    fs.locate ((ofNames names).join p) = .ok loc ↔
      (fs.startIn names).locate p = .ok loc ∧ Fits ((ofNames names).join p) := by
  rw [locate_eq_ok_iff, locate_eq_ok_iff, h.checkPath_join hne, h.follow_join, and_right_comm]

/-- What stands at the end of paths behind the directory. -/
theorem stat_join (h : fs.StandsBelow names) (hne : p.text ≠ []) {node : Node} :
    fs.stat ((ofNames names).join p) = .ok node ↔
      (fs.startIn names).stat p = .ok node ∧ Fits ((ofNames names).join p) := by
  simp only [stat_eq_ok_iff, h.locate_join hne, and_right_comm, exists_and_right]
  rfl

/-- Which paths lead to files behind the directory. -/
theorem isFile_join (h : fs.StandsBelow names) (hne : p.text ≠ []) :
    fs.isFile ((ofNames names).join p) = true ↔
      (fs.startIn names).isFile p = true ∧ Fits ((ofNames names).join p) := by
  simp only [isFile_iff, h.locate_join hne, and_right_comm, exists_and_right]
  rfl

/-- Which paths lead to directories behind the directory. -/
theorem isDirectory_join (h : fs.StandsBelow names) (hne : p.text ≠ []) :
    fs.isDirectory ((ofNames names).join p) = true ↔
      (fs.startIn names).isDirectory p = true ∧ Fits ((ofNames names).join p) := by
  simp only [isDirectory_iff, h.locate_join hne, and_right_comm, exists_and_right]
  rfl

/-- What can be read behind the directory. -/
theorem readText_join (h : fs.StandsBelow names) (hne : p.text ≠ []) {text : Text} :
    fs.readText ((ofNames names).join p) = .ok text ↔
      (fs.startIn names).readText p = .ok text ∧ Fits ((ofNames names).join p) := by
  simp only [readText, readBytes, bind_eq_ok_iff, h.stat_join hne]
  tauto

/-- The same texts are read behind the directory, if what can be read there fits. -/
theorem toOption_readText_join (h : fs.StandsBelow names) (hne : p.text ≠ [])
    (hfits : (∃ text, (fs.startIn names).readText p = .ok text) → Fits ((ofNames names).join p)) :
    (fs.readText ((ofNames names).join p)).toOption =
      ((fs.startIn names).readText p).toOption := by
  have hsome (x : Except IoFault Text) (text : Text) : x.toOption = some text ↔ x = .ok text := by
    cases x <;> simp [Except.toOption]
  refine Option.ext fun text => ?_
  rw [hsome, hsome, h.readText_join hne]
  exact and_iff_left_of_imp fun htext => hfits ⟨text, htext⟩

end StandsBelow

end FileSystem

namespace Lookup

open FileSystem (Fits StandsBelow)
open ScriptBundle.Path (ofNames)

variable {l : Lookup} {fs : FileSystem} {p q : Path} {names : List Text}

/-- An extension behind a path that a directory stands in front of. -/
theorem withExtension_join (h : fs.StandsBelow names) (hne : p.text ≠ []) (extension : Text) :
    withExtension ((ofNames names).join p) extension =
      (ofNames names).join (withExtension p extension) :=
  Path.text_join_append h.areNames hne ('.' :: extension)

/-- If a path with an extension fits, the path does. -/
theorem fits_of_withExtension {extension : Text} (h : Fits (withExtension p extension)) : Fits p :=
  Nat.lt_of_le_of_lt (FileSystem.size_le_of_sublist (List.sublist_append_left ..)) h

/-- If the path of an index file fits, that of its directory does. -/
theorem fits_of_join_indexFile (hne : p.text ≠ []) (h : Fits (p.join indexFile)) : Fits p := by
  rw [Fits, Path.text_join_of hne rfl] at h
  exact Nat.lt_of_le_of_lt (FileSystem.size_le_of_sublist (List.sublist_append_left ..)) h

/-- The same extension is found behind a directory, if what is found there fits. -/
theorem find?_withExtension_join (h : fs.StandsBelow names) (hne : p.text ≠ [])
    {extensions : List Text}
    (hfits : ∀ found,
      (extensions.map (withExtension p)).find? (fs.startIn names).isFile = some found →
        Fits ((ofNames names).join found)) :
    (extensions.map (withExtension ((ofNames names).join p))).find? fs.isFile =
      ((extensions.map (withExtension p)).find? (fs.startIn names).isFile).map
        (ofNames names).join := by
  induction extensions with
  | nil => rfl
  | cons extension extensions ih =>
    have hbehind : (withExtension p extension).text ≠ [] := List.append_ne_nil_of_left_ne_nil hne _
    have hjoin := withExtension_join h hne extension
    rw [List.map_cons, List.find?_cons] at hfits
    rw [List.map_cons, List.map_cons, List.find?_cons, List.find?_cons]
    cases hfile : (fs.startIn names).isFile (withExtension p extension) with
    | true =>
      rw [hfile] at hfits
      have hfile' := (h.isFile_join hbehind).2 ⟨hfile, hfits _ rfl⟩
      rw [hjoin, hfile']
      rfl
    | false =>
      rw [hfile] at hfits
      have hfile' : fs.isFile ((ofNames names).join (withExtension p extension)) = false := by
        rw [← Bool.not_eq_true, h.isFile_join hbehind, hfile]
        exact fun hboth => Bool.false_ne_true hboth.1
      rw [hjoin, hfile']
      exact ih hfits

/-- Nothing is found behind a directory at a path that does not fit. -/
theorem foldedFile?_eq_none_of_not_fits (hfits : ¬ Fits p) : l.foldedFile? fs p = none := by
  have hstat (q : Path) (hq : ¬ Fits q) : fs.isDirectory q ≠ true ∧ fs.isFile q ≠ true := by
    have hlocate (loc : Location) : fs.locate q ≠ .ok loc := fun hloc =>
      hq (FileSystem.checkPath_eq_ok_iff.1 (FileSystem.locate_eq_ok_iff.1 hloc).1).2.2
    refine ⟨fun hdirectory => ?_, fun hfile => ?_⟩
    · obtain ⟨loc, hloc, -⟩ := FileSystem.isDirectory_iff.1 hdirectory
      exact hlocate loc hloc
    · obtain ⟨loc, _, hloc, -⟩ := FileSystem.isFile_iff.1 hfile
      exact hlocate loc hloc
  rw [foldedFile?, if_neg (hstat p hfits).1, if_neg (hstat p hfits).2, List.find?_eq_none]
  intro found hfound
  obtain ⟨extension, -, rfl⟩ := List.mem_map.1 hfound
  exact (hstat _ fun h => hfits (fits_of_withExtension h)).2

/-- The same files are found behind a directory, if what is found there fits. -/
theorem file?_join (h : fs.StandsBelow names) (hq : q.folded = (ofNames names).join p.folded)
    (hfits : ∀ found, l.file? (fs.startIn names) p = some found →
      Fits ((ofNames names).join found)) :
    l.file? fs q = (l.file? (fs.startIn names) p).map (ofNames names).join := by
  have hne := Path.text_folded_ne_nil p
  have hindex : ((ofNames names).join p.folded).join indexFile =
      (ofNames names).join (p.folded.join indexFile) := Path.join_join h.areNames hne rfl
  have hindexText : (p.folded.join indexFile).text ≠ [] := Path.text_join_ne_nil _ (by decide)
  by_cases hfit : Fits ((ofNames names).join p.folded)
  · have hdirectory : fs.isDirectory ((ofNames names).join p.folded) =
        (fs.startIn names).isDirectory p.folded := by
      rw [Bool.eq_iff_iff, h.isDirectory_join hne, and_iff_left hfit]
    have hfile : fs.isFile ((ofNames names).join p.folded) =
        (fs.startIn names).isFile p.folded := by
      rw [Bool.eq_iff_iff, h.isFile_join hne, and_iff_left hfit]
    unfold file? foldedFile? at hfits ⊢
    rw [hq, hdirectory, hfile, hindex]
    by_cases hdir : (fs.startIn names).isDirectory p.folded = true
    · rw [if_pos hdir] at hfits ⊢
      rw [if_pos hdir]
      by_cases hfound : (fs.startIn names).isFile (p.folded.join indexFile) = true
      · rw [if_pos hfound] at hfits ⊢
        rw [if_pos ((h.isFile_join hindexText).2 ⟨hfound, hfits _ rfl⟩)]
        rfl
      · rw [if_neg hfound, if_neg fun hfile' => hfound ((h.isFile_join hindexText).1 hfile').1]
        rfl
    · rw [if_neg hdir] at hfits ⊢
      rw [if_neg hdir]
      split
      · rfl
      · next hnone =>
        rw [if_neg hnone] at hfits
        exact find?_withExtension_join h hne hfits
  · -- then the paths behind it, which are longer, do not fit either
    rw [file?, hq, foldedFile?_eq_none_of_not_fits hfit]
    cases hfound : l.file? (fs.startIn names) p with
    | none => rfl
    | some found =>
      have hfit' := hfits found hfound
      exfalso
      apply hfit
      obtain ⟨-, rfl | rfl | ⟨extension, -, rfl⟩⟩ := file?_cases hfound
      · exact fits_of_join_indexFile (Path.text_join_ne_nil _ hne) (hindex ▸ hfit')
      · exact hfit'
      · exact fits_of_withExtension (withExtension_join h hne extension ▸ hfit')

end Lookup

end ScriptBundle
