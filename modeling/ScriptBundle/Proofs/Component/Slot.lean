/-
# The slot and its template

The slot stands behind the first script line that opens the exported object, and a template has to come
before this line.  But what is put into the slot is the last template of the file, so a template behind the
slot takes the place of the one in front of it.

## Main content

- `Component.exists_first_export` finds the line that opens the exported object in the sections of a file.
- `Component.template_of_slot`: a component with a slot has one slot, and which template it is filled with.
-/
import ScriptBundle.Proofs.Component.Cutting
import ScriptBundle.Proofs.Component.ScriptLines

namespace ScriptBundle

namespace Component

variable {text : Text} {component : Component} {sections front back : List Section} {line : Text}

/-! ## Where the slot stands -/

/-- The slot stands behind the first line that opens the exported object. -/
theorem withSlot_append {lines rest : List Text} (h : ∀ code ∈ lines, ¬ exports code)
    (hline : exports line) :
    withSlot (lines ++ line :: rest) =
      lines.map .code ++ .code line :: .slot :: rest.map .code := by
  induction lines with
  | nil => rw [List.nil_append, withSlot, if_pos hline, List.map_nil, List.nil_append]
  | cons code lines ih =>
    obtain ⟨hcode, hlines⟩ := List.forall_mem_cons.1 h
    rw [List.cons_append, withSlot, if_neg hcode, ih hlines, List.map_cons, List.cons_append]

/-- If the script in some sections opens the exported object, there is a first line that does. -/
theorem exists_first_export {region : Region} (h : ∃ code ∈ codeFrom region sections, exports code) :
    ∃ front line back, sections = front ++ .between line :: back ∧
      scriptLine? (regionAfter region front) line = some line ∧ exports line ∧
      ∀ code ∈ codeFrom region front, ¬ exports code := by
  induction sections generalizing region with
  | nil => simp [codeFrom] at h
  | cons s sections ih =>
    cases s with
    | region block opening body closing =>
      obtain ⟨front, line, back, rfl, hline, hexports, hfront⟩ := ih h
      exact ⟨.region block opening body closing :: front, line, back, rfl, hline, hexports, hfront⟩
    | between first =>
      simp only [codeFrom, List.mem_append, Option.mem_toList] at h
      by_cases hfirst : ∃ code, scriptLine? region first = some code ∧ exports code
      · obtain ⟨code, hcode, hexports⟩ := hfirst
        obtain ⟨rfl, -⟩ := scriptLine?_eq_some_iff.1 hcode
        exact ⟨[], first, sections, rfl, hcode, hexports, by simp [codeFrom]⟩
      · -- the first line is none, so it is among those in front
        have hnone : ∀ code, scriptLine? region first = some code → ¬ exports code :=
          fun code hcode hexports => hfirst ⟨code, hcode, hexports⟩
        obtain ⟨code, hcode | hcode, hexports⟩ := h
        · exact absurd hexports (hnone code hcode)
        obtain ⟨front, line, back, rfl, hline, hopens, hfront⟩ := ih ⟨code, hcode, hexports⟩
        refine ⟨.between first :: front, line, back, rfl, hline, hopens, fun other hother => ?_⟩
        rcases List.mem_append.1 hother with hother | hother
        · exact hnone other (Option.mem_toList.1 hother)
        · exact hfront other hother

/-! ## Which template fills it -/

namespace Draft

/-- Where the script opens the exported object for the first time, a template stands in front. -/
theorem texts_ne_nil_of_read (hcut : ∀ s ∈ front ++ .between line :: back, s.IsRead)
    (hread : (read {} ((front ++ .between line :: back).flatMap Section.lines)).rest = .ok component)
    (hline : scriptLine? (regionAfter .outside front) line = some line) (hexports : exports line)
    (hfirst : ∀ code ∈ codeFrom .outside front, ¬ exports code) : texts .template front ≠ [] := by
  obtain ⟨hfront, hbetween, -⟩ : (∀ s ∈ front, s.IsRead) ∧ (Section.between line).IsRead ∧
      ∀ s ∈ back, s.IsRead := by
    simpa only [List.forall_mem_append, List.forall_mem_cons] using hcut
  -- the draft at the line
  have hat := isAt_foldl_takeSection front
  have hslotted : (front.foldl takeSection {}).slotted = false := by
    rw [hat.slotted, List.any_eq_false]
    exact hfirst
  rw [List.flatMap_append] at hread
  rw [read_sections rfl hfront hread, List.flatMap_cons, Section.lines, List.singleton_append] at hread
  cases hstep : (front.foldl takeSection {}).step line with
  | error defect =>
    rw [read_cons_of_error hstep] at hread
    cases hread
  | ok next =>
    have htemplate := (of_step_between hat.pending hbetween hstep).2 line (hat.region ▸ hline)
      hexports hslotted
    rw [hat.template] at htemplate
    rintro hnil
    rw [hnil] at htemplate
    cases htemplate

end Draft

/-- A component with a slot has just one.  It stands behind the first script line of the file that opens the
exported object, and a template comes before this line.  The slot is filled with the last template of the
whole file, so with the last one before this line exactly if there is none behind it, or the last one has
the same text. -/
theorem template_of_slot (h : (takeApart text).rest = .ok component)
    (hslot : Line.slot ∈ component.script) :
    component.script.count .slot = 1 ∧
      ∃ front line back, Cut (Text.lines text) (front ++ .between line :: back) ∧
        scriptLine? (regionAfter .outside front) line = some line ∧ exports line ∧
        component.script = (codeFrom .outside front).map .code ++ .code line :: .slot ::
          (codeFrom .script back).map .code ∧
        texts .template front ≠ [] ∧
        component.template = (texts .template (front ++ back)).getLast? ∧
        (component.template = (texts .template front).getLast? ↔
          ∀ markup, (texts .template back).getLast? = some markup →
            (texts .template front).getLast? = some markup) := by
  have hcount : component.script.count .slot = 1 :=
    Nat.le_antisymm (count_slot_takeApart h) (List.count_pos_iff.2 hslot)
  refine ⟨hcount, ?_⟩
  obtain ⟨sections, hcut, hparts⟩ := sections_of_takeApart h
  obtain rfl : _ = component := Except.ok.inj ((congrArg Parts.rest hparts).symm.trans h)
  have hexport : ∃ code ∈ codeFrom .outside sections, exports code := by
    rw [count_slot_withSlot, Bool.toNat_eq_one] at hcount
    exact List.any_eq_true.1 hcount
  obtain ⟨front, line, back, rfl, hline, hexports, hfront⟩ := exists_first_export hexport
  rw [takeApart, ← hcut.lines_eq] at h
  have hne := Draft.texts_ne_nil_of_read hcut.isRead h hline hexports hfront
  have htexts : texts .template (front ++ .between line :: back) =
      texts .template front ++ texts .template back := by
    rw [texts_append, texts_cons]
    rfl
  refine ⟨front, line, back, hcut, hline, hexports, ?_, hne, ?_, ?_⟩
  · rw [codeFrom_append, codeFrom, hline, regionBehind_of_scriptLine? hline]
    exact withSlot_append hfront hexports
  · rw [htexts, texts_append]
  · rw [htexts, List.getLast?_append]
    cases hback : (texts .template back).getLast? with
    | none => simp
    | some markup => simp [eq_comm]

/-- A file with a template in front of the line that opens the exported object and another one behind the
script, cut into its sections. -/
def twoTemplates : List Section :=
  [.region .template "<template>\n".toList ["<a>\n".toList] "</template>\n".toList,
    .between "<script>\n".toList, .between "module.exports = \x7b\n".toList,
    .between "\x7d;\n".toList, .between "</script>\n".toList,
    .region .template "<template>\n".toList ["<b>\n".toList] "</template>\n".toList]

/-- The text of this file. -/
def twoTemplatesText : Text := (twoTemplates.flatMap Section.lines).flatten

/-- What this file is taken apart into. -/
def twoTemplatesComponent : Component where
  template := some "<b>\n".toList
  script := [.code "module.exports = \x7b\n".toList, .slot, .code "\x7d;\n".toList]

/-- The file is cut as it is written. -/
theorem cut_twoTemplates : Cut (Text.lines twoTemplatesText) twoTemplates where
  lines_eq := by decide +kernel
  isRead := by decide +kernel

/-- This file has no defects. -/
theorem takeApart_twoTemplates :
    (takeApart twoTemplatesText).rest = .ok twoTemplatesComponent := by
  decide +kernel

/-- The slot of this file is filled with one of its templates. -/
theorem template_twoTemplates :
    (takeApart twoTemplatesText).rest = .ok twoTemplatesComponent ∧
      Line.slot ∈ twoTemplatesComponent.script ∧ twoTemplatesComponent.script.count .slot = 1 ∧
      ∃ front line back, front ++ .between line :: back = twoTemplates ∧ exports line ∧
        texts .template front ≠ [] ∧
        twoTemplatesComponent.template = (texts .template (front ++ back)).getLast? := by
  have hslot : Line.slot ∈ twoTemplatesComponent.script := by decide
  obtain ⟨hcount, front, line, back, hcut, -, hexports, -, hne, htemplate, -⟩ :=
    template_of_slot takeApart_twoTemplates hslot
  exact ⟨takeApart_twoTemplates, hslot, hcount, front, line, back, hcut.unique cut_twoTemplates,
    hexports, hne, htemplate⟩

/-- It is not the last one in front of the line that the slot follows, whichever line this is. -/
theorem template_ne_of_twoTemplates :
    (takeApart twoTemplatesText).rest = .ok twoTemplatesComponent ∧
      Line.slot ∈ twoTemplatesComponent.script ∧
      ∀ front line back, Cut (Text.lines twoTemplatesText) (front ++ .between line :: back) →
        twoTemplatesComponent.template ≠ (texts .template front).getLast? := by
  refine ⟨takeApart_twoTemplates, by decide, fun front line back hcut => ?_⟩
  have hsections : front ++ .between line :: back = twoTemplates := hcut.unique cut_twoTemplates
  have hfront : twoTemplates.take front.length = front := by
    rw [← hsections, List.take_left]
  have hlength : front.length < 6 := by
    have hsum := congrArg List.length hsections
    rw [List.length_append, List.length_cons] at hsum
    have hsix : twoTemplates.length = 6 := rfl
    omega
  -- the second template is the last section, so no line has it in front
  have hnone : ∀ n < 6, twoTemplatesComponent.template ≠
      (texts .template (twoTemplates.take n)).getLast? := by
    decide +kernel
  rw [← hfront]
  exact hnone front.length hlength

end Component

end ScriptBundle
