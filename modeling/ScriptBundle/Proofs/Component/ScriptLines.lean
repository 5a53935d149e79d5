/-
# The lines of a script

The script of a component has lines of the file, in the order of the file, and nothing else but the
slot.  So around the slot, what goes into the module of a file are lines of the file.

## Main content

- `Component.codeFrom_sublist`: the lines of a script are lines of the sections it is read from.
- `Component.pieces_takeApart`: the script has lines of the file.
- `Component.count_slot_takeApart`: the script has one slot at most.
- `Source.lines_of_read`: what stands in front of the slot and behind it are lines of the file.
-/
import Mathlib.Data.List.Flatten
import ScriptBundle.Proofs.Component.Cutting
import ScriptBundle.Source

namespace ScriptBundle

namespace Component

/-- The lines of a script are lines of its sections. -/
theorem codeFrom_sublist (region : Region) (sections : List Section) :
    (codeFrom region sections).Sublist (sections.flatMap Section.lines) := by
  induction sections generalizing region with
  | nil => exact List.Sublist.refl _
  | cons s sections ih =>
    rw [List.flatMap_cons]
    cases s with
    | region block opening body closing => exact (ih region).trans (List.sublist_append_right ..)
    | between line =>
      refine List.Sublist.append ?_ (ih _)
      cases hline : scriptLine? region line with
      | none => exact List.nil_sublist _
      | some code =>
        obtain ⟨rfl, -⟩ := scriptLine?_eq_some_iff.1 hline
        exact List.Sublist.refl _

/-- The slot is read as no pieces. -/
theorem pieces_withSlot (lines : List Text) :
    (withSlot lines).flatMap Line.pieces = lines.map Piece.line := by
  have hcode (lines : List Text) :
      (lines.map Line.code).flatMap Line.pieces = lines.map Piece.line := by
    rw [List.flatMap_map, List.map_eq_flatMap]
    rfl
  induction lines with
  | nil => rfl
  | cons line lines ih =>
    rw [withSlot]
    split
    · rw [List.flatMap_cons, List.flatMap_cons, hcode]
      rfl
    · rw [List.flatMap_cons, ih]
      rfl

/-- There is one slot if a line opens the exported object, and none otherwise. -/
theorem count_slot_withSlot (lines : List Text) :
    (withSlot lines).count .slot = (lines.any exports).toNat := by
  have hcode (lines : List Text) : (lines.map Line.code).count .slot = 0 := by
    simp [List.count_eq_zero]
  induction lines with
  | nil => rfl
  | cons line lines ih =>
    rw [withSlot, List.any_cons]
    cases exports line with
    | true => simp [hcode]
    | false => simpa using ih

variable {text : Text} {component : Component}

/-- The script of a component has lines of the file. -/
theorem pieces_takeApart (h : (takeApart text).rest = .ok component) :
    (component.script.flatMap Line.pieces).Sublist ((Text.lines text).map Piece.line) := by
  obtain ⟨sections, hcut, hparts⟩ := sections_of_takeApart h
  obtain rfl : _ = component := Except.ok.inj ((congrArg Parts.rest hparts).symm.trans h)
  rw [pieces_withSlot, ← hcut.lines_eq]
  exact (codeFrom_sublist _ _).map _

/-- The script of a component has one slot at most. -/
theorem count_slot_takeApart (h : (takeApart text).rest = .ok component) :
    component.script.count .slot ≤ 1 := by
  obtain ⟨sections, -, hparts⟩ := sections_of_takeApart h
  obtain rfl : _ = component := Except.ok.inj ((congrArg Parts.rest hparts).symm.trans h)
  rw [count_slot_withSlot]
  exact Bool.toNat_le _

end Component

/-- In front of the slot and behind it are lines of the file.  Without a template there is no
slot. -/
theorem Source.lines_of_read {file : Path} {text : Text} {source : Source}
    (hkind : FileKind.ofPath file ≠ .markup) (h : (read file text).source = .ok source) :
    ∃ front back : List Text, source.opening = front.map Piece.line ∧ source.closing = back.map Piece.line ∧
      front.Sublist (Text.lines text) ∧ back.Sublist (Text.lines text) ∧
      (source.template = none → back = []) := by
  cases hfile : FileKind.ofPath file with
  | markup => exact absurd hfile hkind
  | script =>
    rw [read, hfile] at h
    obtain rfl := Except.ok.inj h
    exact ⟨Text.lines text, [], rfl, rfl, List.Sublist.refl _, List.nil_sublist _, fun _ => rfl⟩
  | component =>
    simp only [read, hfile, readComponent] at h
    cases hrest : (Component.takeApart text).rest with
    | error defect =>
      rw [hrest] at h
      cases h
    | ok component =>
      simp only [hrest, ofComponent] at h
      -- both parts of the script have some of its lines
      have hlines (part : List Component.Line) (hpart : part.Sublist component.script) :
          ∃ ls : List Text, ls.Sublist (Text.lines text) ∧
            part.flatMap Component.Line.pieces = ls.map Piece.line :=
        List.sublist_map_iff.1 ((hpart.flatMap _).trans (Component.pieces_takeApart hrest))
      obtain ⟨front, hfront, hopening⟩ := hlines _ (List.takeWhile_sublist _)
      obtain ⟨back, hback, hclosing⟩ := hlines _ (List.drop_sublist _ _)
      split at h
      · split at h
        · cases h
        · cases h
          exact ⟨front, back, hopening, hclosing, hfront, hback, nofun⟩
      · cases h
        exact ⟨front, [], hopening, rfl, hfront, List.nil_sublist _, fun _ => rfl⟩

end ScriptBundle
