/-
# Locations of paths

Following a path through a file system ends where the path leads from the working directory, piece by
piece as it is written.  So the location depends on the components of the path alone, and all paths
that lead to the same place are those of one file.

## Main content

- `FileSystem.reverse_of_foldlM_enter`: following pieces is taking the steps of their components.
- `FileSystem.reverse_of_locate`: the location of a path is the place to which the path leads.
- `FileSystem.readText_eq_of_walk`: paths that lead to the same place have the same text.
-/
import ScriptBundle.Proofs.FileSystem.Spelling
import ScriptBundle.Proofs.Path.Walk

namespace ScriptBundle

namespace FileSystem

open ScriptBundle.Path (ofPiece?)

variable {fs : FileSystem} {p q : Path} {place loc : Location} {pieces : List Text}

/-- Following pieces is taking the steps of their components.  Locations list the first name first,
and places the last one. -/
theorem reverse_of_foldlM_enter (h : pieces.foldlM fs.enter place = .ok loc) :
    loc.reverse = (pieces.filterMap ofPiece?).foldl Path.Component.step place.reverse := by
  induction pieces generalizing place with
  | nil =>
    cases h
    rfl
  | cons piece pieces ih =>
    obtain ⟨next, henter, hrest⟩ := foldlM_enter_cons.1 h
    rw [ih hrest]
    unfold enter at henter
    split at henter
    · cases henter
    · cases henter
    · cases henter
    · -- in a directory the piece is idle, a `..` or a name
      split at henter
      · next hidle =>
        cases henter
        rw [List.filterMap_cons_none (Path.ofPiece?_eq_none_iff.2 hidle)]
      · next hidle =>
        split at henter
        · next hparent =>
          cases henter
          have hpiece : ofPiece? piece = some .parent := by rw [hparent]; rfl
          rw [List.filterMap_cons_some hpiece, List.foldl_cons, ← List.tail_reverse]
          rfl
        · next hparent =>
          split at henter
          · cases henter
          · cases henter
            have hpiece : ofPiece? piece = some (.name piece) := by
              rw [ofPiece?, if_neg hidle, if_neg hparent]
            rw [List.filterMap_cons_some hpiece, List.foldl_cons, List.reverse_concat]
            rfl

/-- Idle pieces in front of a `..` stand for no components. -/
theorem filterMap_of_dropWhile {rest : List Text}
    (h : (pieces.dropWhile fun piece => piece = [] ∨ piece = ['.']) = ['.', '.'] :: rest) :
    pieces.filterMap ofPiece? = .parent :: rest.filterMap ofPiece? := by
  have hfront : (pieces.takeWhile fun piece => piece = [] ∨ piece = ['.']).filterMap ofPiece? =
      [] := by
    rw [List.filterMap_eq_nil_iff]
    intro piece hpiece
    exact Path.ofPiece?_eq_none_iff.2 (by simpa using List.mem_takeWhile_imp hpiece)
  rw [← List.takeWhile_append_dropWhile (p := fun piece => decide (piece = [] ∨ piece = ['.']))
    (l := pieces), List.filterMap_append, hfront, h]
  rfl

/-- The location of a path is the place to which the path leads from the working directory. -/
theorem reverse_of_locate (h : fs.locate p = .ok loc) : loc.reverse = p.walk fs.cwd.reverse := by
  obtain ⟨start, rest, hstart, hrest⟩ := follow_eq_ok_iff.1 (locate_eq_ok_iff.1 h).2
  rw [reverse_of_foldlM_enter hrest]
  unfold FileSystem.start at hstart
  split at hstart
  · next habsolute =>
    cases hstart
    rw [Path.isAbsolute_eq, decide_eq_true_eq] at habsolute
    rw [Path.walk_eq_foldl, Path.components_eq, habsolute, List.foldl_append]
    rfl
  · next hrelative =>
    rw [Bool.not_eq_true] at hrelative
    rw [← Path.foldl_step_inner _ hrelative]
    split at hstart
    · -- a directory that was taken away can only be left by a `..`
      split at hstart
      · next hdrop =>
        cases hstart
        rw [Path.inner, filterMap_of_dropWhile hdrop, ← List.tail_reverse]
        rfl
      · cases hstart
    · cases hstart
      rfl

/-- Paths that lead to the same place have the same location. -/
theorem locate_eq_of_walk (h : p.walk fs.cwd.reverse = q.walk fs.cwd.reverse) {loc' : Location}
    (hp : fs.locate p = .ok loc) (hq : fs.locate q = .ok loc') : loc = loc' := by
  rw [← List.reverse_inj, reverse_of_locate hp, reverse_of_locate hq, h]

/-- Paths that lead to the same place have the same text, if they can be read. -/
theorem readText_eq_of_walk (h : p.walk fs.cwd.reverse = q.walk fs.cwd.reverse) {s t : Text}
    (hp : fs.readText p = .ok s) (hq : fs.readText q = .ok t) : s = t :=
  readText_eq_of_locate (fun _ _ hloc hloc' => locate_eq_of_walk h hloc hloc') hp hq

end FileSystem

end ScriptBundle
