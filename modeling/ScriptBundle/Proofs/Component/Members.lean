/-
# Members of the exports

A script may set members of its exports, such as `module.exports.install`, besides the exported object.
The line that does so should go into the script as any other line.  But if it ends with a brace and requires
nothing, it is taken for a line that opens the exported object.  If it is the first one of these, then it
gets the slot, or is a defect where no template is in front of it.

## Main content

- `Component.NamesMember` says that a line sets a member of the exports, and `Component.TakenForExport`
  that it is taken for the line that gets the slot.
- `Component.Draft.read_behind`: what is read does not depend on the script in front of it.
- `Component.takeApart_of_namesMember`: what a line that sets a member does to a component.
-/
import ScriptBundle.Proofs.Component.Slot

namespace ScriptBundle

namespace Component

variable {text line : Text} {front sections : List Section} {back : List Text}

/-! ## Lines that set members -/

/-- A line, without the blanks around it, begins with the name of a member of the exports. -/
def NamesMember (line : Text) : Prop :=
  "module.exports.".toList.isPrefixOf (Text.trim line) = true

instance : Decidable (NamesMember line) := inferInstanceAs (Decidable (_ = true))

/-- A line behind some sections is taken for the one that gets the slot: it ends with a brace and requires
nothing, and no script line in front of it opens the exported object. -/
def TakenForExport (front : List Section) (line : Text) : Prop :=
  (Text.trim line).getLast? = some '\x7b' ∧ containsCall (Text.trim line) = false ∧
    ∀ code ∈ codeFrom .outside front, ¬ exports code

instance : Decidable (TakenForExport front line) := inferInstanceAs (Decidable (_ ∧ _ ∧ _))

/-- The name of a member begins like the exported object. -/
theorem NamesMember.exports_iff (h : NamesMember line) :
    exports line = true ↔
      (Text.trim line).getLast? = some '\x7b' ∧ containsCall (Text.trim line) = false := by
  have hbegins : "module.exports".toList.isPrefixOf (Text.trim line) = true := by
    rw [NamesMember, List.isPrefixOf_iff_prefix] at h
    rw [List.isPrefixOf_iff_prefix]
    exact List.IsPrefix.trans ⟨['.'], rfl⟩ h
  rw [exports, opensExport, hbegins, Bool.true_and, Bool.and_eq_true, decide_eq_true_eq,
    Bool.not_eq_true']

/-- A line that sets a member is no tag of a block. -/
theorem NamesMember.not_opensBlock (h : NamesMember line) (name : TagName) :
    ¬ OpensBlock name line ∧ ¬ ClosesBlock name line := by
  obtain ⟨rest, hrest⟩ := List.isPrefixOf_iff_prefix.1 h
  rw [OpensBlock, ClosesBlock, ← hrest]
  cases name
  all_goals
    refine ⟨Bool.false_ne_true, ?_⟩
    rintro ⟨⟩

/-- A line that sets a member opens no block. -/
theorem NamesMember.isRead (h : NamesMember line) : (Section.between line).IsRead :=
  fun block => (h.not_opensBlock block.tagName).1

/-- In a script, a line that sets a member is a script line. -/
theorem NamesMember.scriptLine? (h : NamesMember line) : scriptLine? .script line = some line :=
  scriptLine?_eq_some_iff.2 ⟨rfl, rfl, (h.not_opensBlock .script).1, (h.not_opensBlock .script).2⟩

/-! ## The script in front -/

/-- Parts with some lines in front of the script. -/
def Parts.behind (lines : List Line) (parts : Parts) : Parts where
  styles := parts.styles
  rest := parts.rest.map fun component => { component with script := lines ++ component.script }

namespace Draft

variable {d : Draft} {component : Component}

/-- A draft with some lines in front of the script. -/
def behind (lines : List Line) (d : Draft) : Draft := { d with script := d.script ++ lines.reverse }

/-- A draft has its own script behind nothing. -/
theorem behind_script (d : Draft) : ({ d with script := [] } : Draft).behind d.script.reverse = d := by
  simp [behind]

/-- Script lines are added behind those in front. -/
theorem addScript_behind (lines : List Line) (d : Draft) (codes : List Text) :
    (d.behind lines).addScript codes = (d.addScript codes).behind lines := by
  simp [addScript, behind]

/-- What a line does does not depend on the script in front of it. -/
theorem step_behind (lines : List Line) (d : Draft) (line : Text) :
    (d.behind lines).step line = (d.step line).map (behind lines) := by
  cases hpending : d.pending with
  | some opened =>
    by_cases hends : opened.Ends line
    · rw [step_of_ends hpending hends, step_of_ends (d := d.behind lines) hpending hends]
      cases opened <;> rfl
    · rw [step_of_not_ends hpending hends, step_of_not_ends (d := d.behind lines) hpending hends]
      rfl
  | none =>
    have hscript : (d.behind lines).scriptStep line = (d.scriptStep line).map (behind lines) := by
      rw [scriptStep_eq, scriptStep_eq, addScript_behind, apply_ite (Except.map (behind lines))]
      rfl
    simp only [step, hpending, show (d.behind lines).pending = none from hpending]
    rw [tagStep_eq, tagStep_eq, hscript]
    simp only [apply_ite (Except.map (behind lines))]
    rfl

/-- What is read does not depend on the script in front of it. -/
theorem read_behind (lines : List Line) (d : Draft) (rest : List Text) :
    (d.behind lines).read rest = (d.read rest).behind lines := by
  induction rest generalizing d with
  | nil =>
    cases hpending : d.pending with
    | none => simp [finish, behind, Parts.behind, hpending, Except.map]
    | some opened => simp [finish, behind, Parts.behind, hpending, Except.map]
  | cons line rest ih =>
    have hstep := step_behind lines d line
    cases hline : d.step line with
    | error defect =>
      rw [hline] at hstep
      rw [read_cons_of_error hstep, read_cons_of_error hline]
      rfl
    | ok next =>
      rw [hline] at hstep
      rw [read_cons_of_ok hstep, read_cons_of_ok hline, ih]

/-- A script line that gets no slot is added to the script, and what is behind it is read as without it. -/
theorem read_plain (hstep : d.step line = d.scriptStep line)
    (h : exports line = true → d.slotted = true) (back : List Text) :
    d.read (line :: back) =
      (({ d with script := [] } : Draft).read back).behind (d.script.reverse ++ [.code line]) := by
  have hok : d.step line = .ok (d.addScript [line]) := by
    rw [hstep, scriptStep_eq, if_neg]
    rintro ⟨-, hfirst, hexports⟩
    rw [h hexports] at hfirst
    cases hfirst
  have hadd : d.addScript [line] =
      ({ d with script := [] } : Draft).behind (d.script.reverse ++ [.code line]) := by
    obtain ⟨styles, template, script, region, pending, slotted⟩ := d
    cases hline : exports line <;> cases slotted <;>
      simp_all [addScript, behind, withSlotIf, withSlot]
  rw [read_cons_of_ok hok, hadd, read_behind]

/-- A script line that gets the slot is added to the script together with it, and what is behind it is read
as in a component that has its slot. -/
theorem read_export (hstep : d.step line = d.scriptStep line) (h : exports line = true)
    (hslotted : d.slotted = false) (htemplate : d.template ≠ none) (back : List Text) :
    d.read (line :: back) =
      (({ d with script := [], slotted := true } : Draft).read back).behind
        (d.script.reverse ++ [.code line, .slot]) := by
  have hok : d.step line = .ok (d.addScript [line]) := by
    rw [hstep, scriptStep_of_template fun hnone => absurd hnone htemplate]
  have hadd : d.addScript [line] =
      ({ d with script := [], slotted := true } : Draft).behind
        (d.script.reverse ++ [.code line, .slot]) := by
    simp [addScript, behind, withSlotIf, withSlot, h, hslotted]
  rw [read_cons_of_ok hok, hadd, read_behind]

/-- What is added to a script that is empty yet are lines of code, with the slot if the draft has none. -/
theorem script_of_read {s : Text} {before lines : List Text} (hpending : d.pending = none)
    (hscript : d.script = []) (hlines : Text.lines s = before ++ lines)
    (h : (d.read lines).rest = .ok component) :
    ∃ codes, component.script = withSlotIf d.slotted codes := by
  have hcut : CutBehind d.pending lines := by
    refine cutBehind_of_read (fun front line back heq hback => ?_) h
    have hbefore : Text.lines s = (before ++ front) ++ line :: back := by
      rw [hlines, heq, List.append_assoc]
    exact Text.getLast?_of_lines hbefore hback
  rw [hpending] at hcut
  obtain ⟨sections, hsections, hread⟩ := hcut
  rw [← hsections, ← List.append_nil (sections.flatMap Section.lines)] at h
  have htaken := read_sections hpending hread h
  rw [htaken, read_nil, finish, pending_foldl_takeSection, hpending] at h
  obtain rfl := Except.ok.inj h
  refine ⟨codeFrom d.region sections, ?_⟩
  rw [(script_foldl_takeSection d sections).1, hscript]
  rfl

section Member

variable (h : d.IsAt front) (hregion : regionAfter .outside front = .script) (hmember : NamesMember line)

include h hmember

/-- A line that sets a member is taken for the one that gets the slot if it looks like it and there is no
slot yet. -/
theorem IsAt.takenForExport_iff :
    TakenForExport front line ↔ exports line = true ∧ d.slotted = false := by
  rw [TakenForExport, ← and_assoc, ← hmember.exports_iff, h.slotted, List.any_eq_false]

include hregion

/-- In a script, a line that sets a member is read as a script line. -/
theorem IsAt.step_member : d.step line = d.scriptStep line := by
  rw [step_between h.pending hmember.isRead, h.region, hregion, hmember.scriptLine?]

/-- A member that is not taken for the exported object only adds a script line. -/
theorem IsAt.read_member (hplain : ¬ TakenForExport front line) (back : List Text) :
    d.read (line :: back) = (({ d with script := [] } : Draft).read back).behind
      (withSlot (codeFrom .outside front) ++ [.code line]) := by
  have hslotted : exports line = true → d.slotted = true := by
    intro hexports
    rw [← Bool.not_eq_false]
    exact fun hfirst => hplain ((h.takenForExport_iff hmember).2 ⟨hexports, hfirst⟩)
  rw [read_plain (h.step_member hregion hmember) hslotted, h.script]

/-- A member that is taken for the exported object needs a template. -/
theorem IsAt.read_member_of_nil (htaken : TakenForExport front line)
    (hnil : texts .template front = []) (back : List Text) :
    d.read (line :: back) = ⟨texts .style front, .error .missingTemplate⟩ := by
  obtain ⟨hexports, hfirst⟩ := (h.takenForExport_iff hmember).1 htaken
  have hnone : d.template = none := by rw [h.template, hnil, List.getLast?_nil]
  have hmissing : d.step line = .error .missingTemplate :=
    (h.step_member hregion hmember).trans (scriptStep_of_exports hnone hfirst hexports)
  rw [read_cons_of_error hmissing, h.styles]

/-- With a template, a member that is taken for the exported object gets the slot. -/
theorem IsAt.read_member_of_ne_nil (htaken : TakenForExport front line)
    (hne : texts .template front ≠ []) (back : List Text) :
    d.read (line :: back) = (({ d with script := [], slotted := true } : Draft).read back).behind
      (withSlot (codeFrom .outside front) ++ [.code line, .slot]) := by
  obtain ⟨hexports, hfirst⟩ := (h.takenForExport_iff hmember).1 htaken
  have hsome : d.template ≠ none := by rwa [h.template, ne_eq, List.getLast?_eq_none_iff]
  rw [read_export (h.step_member hregion hmember) hexports hfirst hsome, h.script]

end Member

end Draft

/-! ## What a member does to a component -/

/-- No slot stands in front of all script lines. -/
theorem head?_withSlotIf_ne (slotted : Bool) (codes : List Text) :
    (withSlotIf slotted codes).head? ≠ some .slot := by
  cases codes with
  | nil => cases slotted <;> simp [withSlotIf, withSlot]
  | cons code codes =>
    cases slotted with
    | true => simp [withSlotIf]
    | false =>
      rw [withSlotIf, if_neg Bool.false_ne_true, withSlot]
      split <;> simp

/-- The text of a file without the script line between two parts of it. -/
def textWithout (front : List Section) (back : List Text) : Text :=
  (front.flatMap Section.lines ++ back).flatten

/-- What a script line does that begins with the name of a member of the exports.  If it is not taken for
the line that gets the slot, it is added to the script and nothing else changes: all the rest is what it is
without this line, the slot and the defects included.  Otherwise it is a defect where no template is in
front of it, whatever follows; and else it gets the slot, and no line behind it does. -/
theorem takeApart_of_namesMember
    (hlines : Text.lines text = front.flatMap Section.lines ++ line :: back)
    (hread : ∀ s ∈ front, s.IsRead) (hregion : regionAfter .outside front = .script)
    (hmember : NamesMember line) :
    (¬ TakenForExport front line → ∃ parts : Parts,
      takeApart (textWithout front back) = parts.behind (withSlot (codeFrom .outside front)) ∧
      takeApart text = parts.behind (withSlot (codeFrom .outside front) ++ [.code line]) ∧
      ∀ component, parts.rest = .ok component → component.script.head? ≠ some .slot) ∧
    (TakenForExport front line → texts .template front = [] →
      takeApart text = ⟨texts .style front, .error .missingTemplate⟩) ∧
    (TakenForExport front line → texts .template front ≠ [] → ∃ parts : Parts,
      takeApart text =
        parts.behind (withSlot (codeFrom .outside front) ++ [.code line, .slot]) ∧
      ∀ component, parts.rest = .ok component → .slot ∉ component.script) := by
  have hwithout := Text.lines_without hlines
  rcases Draft.read_sections_cases (d := {}) rfl hread with htaken | ⟨hexports, styles, hmissing⟩
  · -- the draft at the line
    obtain ⟨d, hd⟩ : ∃ d, d = front.foldl Draft.takeSection {} := ⟨_, rfl⟩
    have hat : d.IsAt front := hd ▸ Draft.isAt_foldl_takeSection front
    rw [← hd] at htaken
    have htext : takeApart text = d.read (line :: back) := by rw [takeApart, hlines, htaken]
    have hrest : takeApart (textWithout front back) = d.read back := by
      rw [takeApart, textWithout, hwithout, htaken]
    have hbehind : Text.lines text = (front.flatMap Section.lines ++ [line]) ++ back := by
      rw [hlines, List.append_assoc]
      rfl
    refine ⟨fun hplain => ?_, fun htaken hnil => ?_, fun htaken hne => ?_⟩
    · refine ⟨({ d with script := [] } : Draft).read back, ?_, ?_, fun component hcomponent => ?_⟩
      · rw [hrest, ← Draft.read_behind, ← hat.script, Draft.behind_script]
      · rw [htext, hat.read_member hregion hmember hplain]
      · obtain ⟨codes, hcodes⟩ :=
          Draft.script_of_read (d := { d with script := [] }) hat.pending rfl hbehind hcomponent
        rw [hcodes]
        exact head?_withSlotIf_ne _ _
    · rw [htext, hat.read_member_of_nil hregion hmember htaken hnil]
    · refine ⟨({ d with script := [], slotted := true } : Draft).read back, ?_,
        fun component hcomponent => ?_⟩
      · rw [htext, hat.read_member_of_ne_nil hregion hmember htaken hne]
      · obtain ⟨codes, hcodes⟩ := Draft.script_of_read (d := { d with script := [], slotted := true })
          hat.pending rfl hbehind hcomponent
        rw [hcodes]
        simp [withSlotIf]
  · -- the script in front opens the exported object, which is a defect already
    have hfirst : ¬ TakenForExport front line := by
      rintro ⟨-, -, hnone⟩
      obtain ⟨code, hcode, hopens⟩ := hexports
      exact hnone code hcode hopens
    refine ⟨fun _ => ⟨⟨styles, .error .missingTemplate⟩, ?_, ?_, fun component hcomponent => ?_⟩,
      fun h => absurd h hfirst, fun h => absurd h hfirst⟩
    · rw [takeApart, textWithout, hwithout, hmissing]
      rfl
    · rw [takeApart, hlines, hmissing]
      rfl
    · cases hcomponent

/-- A line that sets a member of the exports to a function. -/
def installLine : Text := "module.exports.install = function (Vue) \x7b\n".toList

/-- A script in front of which a template stands, up to this line. -/
def installFront : List Section :=
  [.region .template "<template>\n".toList ["<p>\n".toList] "</template>\n".toList,
    .between "<script>\n".toList]

/-- The rest of this script, which opens the exported object. -/
def installBack : List Text :=
  ["\x7d;\n".toList, "module.exports = \x7b\n".toList, "\x7d;\n".toList, "</script>\n".toList]

/-- A file with this line between two parts. -/
def installFile (front : List Section) (back : List Text) : Text :=
  (front.flatMap Section.lines ++ installLine :: back).flatten

/-- In this script the line gets the slot, and none is left for the exported object. -/
theorem slot_behind_installLine :
    Text.lines (installFile installFront installBack) =
        installFront.flatMap Section.lines ++ installLine :: installBack ∧
      (∀ s ∈ installFront, s.IsRead) ∧ regionAfter .outside installFront = .script ∧
      NamesMember installLine ∧ TakenForExport installFront installLine ∧
      ∃ parts : Parts,
        takeApart (installFile installFront installBack) =
          parts.behind [.code installLine, .slot] ∧
        ∀ component, parts.rest = .ok component → .slot ∉ component.script := by
  have hlines : Text.lines (installFile installFront installBack) =
      installFront.flatMap Section.lines ++ installLine :: installBack := by
    decide +kernel
  have hread : ∀ s ∈ installFront, s.IsRead := by decide +kernel
  have hmember : NamesMember installLine := by decide +kernel
  have htaken : TakenForExport installFront installLine := by decide +kernel
  obtain ⟨-, -, hslot⟩ := takeApart_of_namesMember hlines hread rfl hmember
  exact ⟨hlines, hread, rfl, hmember, htaken, hslot htaken (by decide)⟩

/-- A line that sets a member can get the slot of a line behind it that opens the exported object.  And it
can be the only defect of a file: without this line the file has none. -/
theorem installLine_takes_slot :
    NamesMember installLine ∧
      (takeApart (installFile installFront installBack)).rest = .ok
        { template := some "<p>\n".toList
          script :=
            [.code installLine, .slot, .code "\x7d;\n".toList, .code "module.exports = \x7b\n".toList,
              .code "\x7d;\n".toList] } ∧
      (takeApart (installFile [.between "<script>\n".toList] ["\x7d;\n".toList])).rest =
        .error .missingTemplate ∧
      (takeApart (textWithout [.between "<script>\n".toList] ["\x7d;\n".toList])).rest = .ok
        { template := none, script := [.code "\x7d;\n".toList] } := by
  refine ⟨?_, ?_, ?_, ?_⟩ <;> decide +kernel

end Component

end ScriptBundle
