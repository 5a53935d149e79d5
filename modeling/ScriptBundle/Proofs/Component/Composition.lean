/-
# Components put together

Taking a component file apart gives back what was put in: the bodies of the styles, the body of the last
template, and the lines of the script with the slot behind the first line that opens the exported
object.  Reading goes from passage to passage: between two of them no block is open, and every passage
adds its own part to the component.

## Main content

- `Component.Draft.takeIn` says what one passage adds to a component, and
  `Component.Draft.AtRest.read_lines` that reading its lines adds just that.
- `Component.Draft.AtRest.read_passages` goes through all passages;
  `Component.Draft.AtRest.read_passages_of_exports` is the case in which the template comes too late.
- `Component.takeApart_compose`: what a file is taken apart into.
-/
import ScriptBundle.Proofs.Component.Cutting

namespace ScriptBundle

namespace Component

variable {line opening closing : Text} {body : List Text}

/-! ## Blocks -/

namespace OpenBlock

/-- A style block ends at its closing tag, if there is none in its body. -/
theorem takes_style {collected : List Text} (h : ∀ line ∈ body, ¬ ClosesBlock .style line)
    (hcloses : ClosesBlock .style closing) : (OpenBlock.style collected).Takes body closing := by
  induction body generalizing collected with
  | nil => exact ⟨trivial, hcloses⟩
  | cons line body ih =>
    obtain ⟨hline, hbody⟩ := List.forall_mem_cons.1 h
    obtain ⟨hkeeps, hends⟩ := ih hbody
    exact ⟨⟨hline, hkeeps⟩, hends⟩

/-- A template that stays open ends at its closing tag, if the depth is one there. -/
theorem takes_template {depth : Nat} {collected : List Text} (h : StaysOpen depth body)
    (hend : body.foldl depthBehind depth = 1) (hcloses : ClosesBlock .template closing) :
    (OpenBlock.template depth collected).Takes body closing := by
  induction body generalizing depth collected with
  | nil => exact ⟨trivial, hcloses, Int.ofNat.inj hend⟩
  | cons line body ih =>
    obtain ⟨hopen, hdepth, hrest⟩ := h
    rw [List.foldl_cons, ← depthAfter_eq hdepth] at hend
    rw [← depthAfter_eq hdepth] at hrest
    obtain ⟨hkeeps, hends⟩ := ih hrest hend
    exact ⟨⟨fun hclose => hopen ⟨hclose.1, by exact_mod_cast hclose.2⟩, hkeeps⟩, hends⟩

end OpenBlock

/-- A well-formed block is read as a section. -/
theorem Section.isRead_of_wellFormed (block : Block)
    (h : (Passage.block block.tagName opening body closing).WellFormed)
    (hbalanced : (Passage.block block.tagName opening body closing).Balanced) :
    (Section.region block opening body closing).IsRead := by
  obtain ⟨hlines, hopens, hcloses, hadmits⟩ := h
  have hwhole : ∀ line ∈ body, line.getLast? = some '\n' := fun line hline =>
    (hlines line (List.mem_cons_of_mem _ (List.mem_append_left _ hline))).getLast?
  cases block with
  | style => exact ⟨hopens, fun _ => hadmits.1, OpenBlock.takes_style hadmits.2 hcloses, hwhole⟩
  | template => exact ⟨hopens, nofun, OpenBlock.takes_template hadmits hbalanced hcloses, hwhole⟩

/-! ## Reading passages -/

namespace Draft

variable {d : Draft} {rest : List Text}

/-- A draft between passages: no block is open. -/
structure AtRest (d : Draft) : Prop where
  /-- The draft is outside of scripts. -/
  region_eq : d.region = .outside
  /-- No style block and no template is open. -/
  pending_eq : d.pending = none

/-- What a passage adds to a component. -/
def takeIn (d : Draft) : Passage → Draft
  | .between _ => d
  | .block .style _ body _ => { d with styles := body.flatten :: d.styles }
  | .block .template _ body _ => { d with template := some body.flatten }
  | .block .script _ body _ => d.addScript body

/-- A passage that was taken in leaves no block open. -/
theorem atRest_takeIn (hd : d.AtRest) (p : Passage) : (d.takeIn p).AtRest := by
  cases p with
  | between line => exact hd
  | block name opening body closing => cases name <;> exact ⟨hd.region_eq, hd.pending_eq⟩

/-- A line between blocks adds nothing. -/
theorem AtRest.read_between (hd : d.AtRest) (h : ∀ name, ¬ OpensBlock name line) :
    d.read (line :: rest) = d.read rest := by
  apply read_cons_of_ok
  rw [step_between hd.pending_eq fun block => h block.tagName, hd.region_eq, scriptLine?_outside]
  -- outside of scripts their closing tag changes nothing
  have hregion : regionBehind .outside line = d.region := by
    simp [regionBehind, h .script, hd.region_eq]
  rw [hregion]

/-! ## Scripts -/

/-- Inside of a script a line without tags is a line of it. -/
theorem step_script (hregion : d.region = .script) (hpending : d.pending = none)
    (hclose : ¬ ClosesBlock .script line) (hopen : ∀ name, ¬ OpensBlock name line) :
    d.step line = d.scriptStep line := by
  rw [step_between hpending fun block => hopen block.tagName,
    scriptLine?_eq_some_iff.2 ⟨rfl, hregion, hopen .script, hclose⟩]

/-- The body of a script is added to the script. -/
theorem read_script_body (hregion : d.region = .script) (hpending : d.pending = none)
    (h : ∀ line ∈ body, ¬ ClosesBlock .script line ∧ ∀ name, ¬ OpensBlock name line)
    (htemplate : d.template = none → ∀ line ∈ body, ¬ exports line) :
    d.read (body ++ rest) = (d.addScript body).read rest := by
  induction body generalizing d with
  | nil => rw [addScript_nil, List.nil_append]
  | cons line body ih =>
    obtain ⟨hline, hbody⟩ := List.forall_mem_cons.1 h
    have hstep : d.step line = .ok (d.addScript [line]) := by
      rw [step_script hregion hpending hline.1 hline.2]
      exact scriptStep_of_template fun hnone => htemplate hnone line (List.mem_cons_self ..)
    rw [List.cons_append, read_cons_of_ok hstep,
      ih (d := d.addScript [line]) hregion hpending hbody
        (fun hnone other hother => htemplate hnone other (List.mem_cons_of_mem _ hother)),
      ← addScript_append, List.singleton_append]

/-- Without a template, a script that opens the exported object is a defect. -/
theorem read_script_body_of_exports (hregion : d.region = .script) (hpending : d.pending = none)
    (h : ∀ line ∈ body, ¬ ClosesBlock .script line ∧ ∀ name, ¬ OpensBlock name line)
    (htemplate : d.template = none) (hslotted : d.slotted = false)
    (hexports : ∃ line ∈ body, exports line) :
    (d.read (body ++ rest)).rest = .error .missingTemplate := by
  obtain ⟨found, hmem, hexports⟩ := hexports
  induction body generalizing d with
  | nil => cases hmem
  | cons line body ih =>
    obtain ⟨hline, hbody⟩ := List.forall_mem_cons.1 h
    have hstep := step_script hregion hpending hline.1 hline.2
    by_cases hfirst : exports line
    · rw [scriptStep_of_exports htemplate hslotted hfirst] at hstep
      rw [List.cons_append, read_cons_of_error hstep]
    · -- the line is added, and the one that opens the exported object is still to come
      rw [scriptStep_of_template fun _ => hfirst] at hstep
      have hfound : found ∈ body := by
        rcases List.mem_cons.1 hmem with rfl | hrest
        · exact absurd hexports hfirst
        · exact hrest
      have hnone : (d.addScript [line]).slotted = false := by
        simp [addScript, hslotted, hfirst]
      rw [List.cons_append, read_cons_of_ok hstep]
      exact ih hregion hpending hbody htemplate hnone hfound

/-- Behind the opening tag of a script its lines are read. -/
theorem AtRest.step_script_opening (hd : d.AtRest) (h : OpensBlock .script opening) :
    d.step opening = .ok { d with region := .script } := by
  have hread : (Section.between opening).IsRead := fun block =>
    h.not_of_ne (by cases block <;> decide)
  rw [step_between hd.pending_eq hread, hd.region_eq, scriptLine?_outside, regionBehind, if_pos h]

/-- A script block adds its body to the script. -/
theorem AtRest.read_script (hd : d.AtRest)
    (h : (Passage.block .script opening body closing).WellFormed)
    (htemplate : d.template = none → ∀ line ∈ body, ¬ exports line) :
    d.read (opening :: (body ++ closing :: rest)) = (d.addScript body).read rest := by
  obtain ⟨-, hopens, hcloses, hbody⟩ := h
  have hclosing : step ({ d with region := .script }.addScript body) closing =
      .ok (d.addScript body) := by
    have hnone := hcloses.not_opensBlock
    simp only [step, addScript, hd.pending_eq]
    rw [tagStep_eq, if_neg (hnone .style), if_neg (hnone .template), if_neg (hnone .script),
      if_pos hcloses, hd.region_eq]
  rw [read_cons_of_ok (hd.step_script_opening hopens),
    read_script_body (d := { d with region := .script }) rfl hd.pending_eq hbody htemplate,
    read_cons_of_ok hclosing]

/-! ## All passages -/

/-- A passage adds what it should, if it opens the exported object only where there is a template. -/
theorem AtRest.read_lines {p : Passage} (hd : d.AtRest) (h : p.WellFormed) (hbalanced : p.Balanced)
    (htemplate : d.template = none → p.ExportsNothing) (rest : List Text) :
    d.read (p.lines ++ rest) = (d.takeIn p).read rest := by
  cases p with
  | between line => exact hd.read_between h.2
  | block name opening body closing =>
    rw [Passage.lines, List.cons_append, List.append_assoc, List.singleton_append]
    cases name with
    | style => exact read_region hd.pending_eq (Section.isRead_of_wellFormed .style h hbalanced) rest
    | template => exact read_region hd.pending_eq (Section.isRead_of_wellFormed .template h hbalanced) rest
    | script => exact hd.read_script h fun hnone => htemplate hnone body rfl

/-- Where there is no template behind a passage, there was none in front of it and it is none. -/
theorem template_takeIn_eq_none {p : Passage} (h : (d.takeIn p).template = none) :
    d.template = none ∧ (p.body? .template).isNone = true := by
  cases p with
  | between line => exact ⟨h, rfl⟩
  | block name opening body closing =>
    cases name with
    | style => exact ⟨h, rfl⟩
    | template => cases h
    | script => exact ⟨h, rfl⟩

/-- Reading the lines of passages takes one after the other in. -/
theorem AtRest.read_passages {passages : List Passage} (hd : d.AtRest)
    (h : ∀ p ∈ passages, p.WellFormed) (hbalanced : ∀ p ∈ passages, p.Balanced)
    (hexports : d.template = none → ExportsBehindTemplate passages) :
    d.read (passages.flatMap Passage.lines) = (passages.foldl takeIn d).finish := by
  induction passages generalizing d with
  | nil => rfl
  | cons p passages ih =>
    obtain ⟨hp, h⟩ := List.forall_mem_cons.1 h
    obtain ⟨hbal, hbalanced⟩ := List.forall_mem_cons.1 hbalanced
    have hnothing : d.template = none → p.ExportsNothing := fun hnone =>
      (exportsBehindTemplate_cons.1 (hexports hnone)).1
    rw [List.flatMap_cons, hd.read_lines hp hbal hnothing, List.foldl_cons]
    refine ih (atRest_takeIn hd p) h hbalanced fun hafter => ?_
    obtain ⟨hnone, htemplate⟩ := template_takeIn_eq_none hafter
    exact (exportsBehindTemplate_cons.1 (hexports hnone)).2 htemplate

/-- A passage that is no template and does not open the exported object brings in no template and no
slot. -/
theorem takeIn_of_exportsNothing {p : Passage} (hp : p.ExportsNothing)
    (hnone : (p.body? .template).isNone = true) :
    (d.takeIn p).template = d.template ∧ (d.takeIn p).slotted = d.slotted := by
  cases p with
  | between line => exact ⟨rfl, rfl⟩
  | block name opening body closing =>
    cases name with
    | style => exact ⟨rfl, rfl⟩
    | template => cases hnone
    | script =>
      have hbody : body.any exports = false := List.any_eq_false.2 (hp body rfl)
      exact ⟨rfl, by rw [takeIn, addScript, hbody, Bool.or_false]⟩

/-- A passage that opens the exported object is a defect without a template and a slot. -/
theorem AtRest.read_lines_of_exports {p : Passage} (hd : d.AtRest) (h : p.WellFormed)
    (htemplate : d.template = none) (hslotted : d.slotted = false) (hp : ¬ p.ExportsNothing) :
    (d.read (p.lines ++ rest)).rest = .error .missingTemplate := by
  simp only [Passage.ExportsNothing, Classical.not_forall, Classical.not_not] at hp
  obtain ⟨body, hbody, line, hline, hexports⟩ := hp
  cases p with
  | between line => cases hbody
  | block name opening other closing =>
    cases name with
    | style => cases hbody
    | template => cases hbody
    | script =>
      cases hbody
      obtain ⟨-, hopens, -, hadmits⟩ := h
      rw [Passage.lines, List.cons_append, List.append_assoc,
        read_cons_of_ok (hd.step_script_opening hopens)]
      exact read_script_body_of_exports rfl hd.pending_eq hadmits htemplate hslotted
        ⟨line, hline, hexports⟩

/-- If the exported object is opened in front of the first template, this is a defect. -/
theorem AtRest.read_passages_of_exports {passages : List Passage} (hd : d.AtRest)
    (h : ∀ p ∈ passages, p.WellFormed) (hbalanced : ∀ p ∈ passages, p.Balanced)
    (htemplate : d.template = none) (hslotted : d.slotted = false)
    (hexports : ¬ ExportsBehindTemplate passages) :
    (d.read (passages.flatMap Passage.lines)).rest = .error .missingTemplate := by
  induction passages generalizing d with
  | nil => exact absurd (fun line hline => nomatch hline) hexports
  | cons p passages ih =>
    obtain ⟨hp, h⟩ := List.forall_mem_cons.1 h
    obtain ⟨hbal, hbalanced⟩ := List.forall_mem_cons.1 hbalanced
    rw [List.flatMap_cons]
    by_cases hnothing : p.ExportsNothing
    · -- the passage is taken in, and what is wrong stands behind it
      rw [exportsBehindTemplate_cons, and_iff_right hnothing, Classical.not_imp] at hexports
      obtain ⟨htemplate', hslotted'⟩ := takeIn_of_exportsNothing (d := d) hnothing hexports.1
      rw [hd.read_lines hp hbal fun _ => hnothing]
      exact ih (atRest_takeIn hd p) h hbalanced (htemplate'.trans htemplate)
        (hslotted'.trans hslotted) hexports.2
    · exact hd.read_lines_of_exports hp htemplate hslotted hnothing

/-- Behind all passages no block is open. -/
theorem AtRest.foldl_takeIn (hd : d.AtRest) (passages : List Passage) :
    (passages.foldl takeIn d).AtRest := by
  induction passages generalizing d with
  | nil => exact hd
  | cons p passages ih => exact ih (atRest_takeIn hd p)

/-- A draft in which no block is open becomes a component. -/
theorem AtRest.finish (hd : d.AtRest) :
    d.finish = ⟨d.styles.reverse, .ok ⟨d.template, d.script.reverse⟩⟩ := by
  rw [Draft.finish, hd.pending_eq]

/-- The styles are the bodies of all style blocks. -/
theorem styles_foldl_takeIn (d : Draft) (passages : List Passage) :
    (passages.foldl takeIn d).styles.reverse =
      d.styles.reverse ++ (bodies .style passages).map List.flatten := by
  induction passages generalizing d with
  | nil => exact (List.append_nil _).symm
  | cons p passages ih =>
    rw [List.foldl_cons, ih, bodies_cons]
    cases p with
    | between line => rfl
    | block name opening body closing => cases name <;> simp [takeIn, addScript, Passage.body?]

/-- The template is the body of the last template block. -/
theorem template_foldl_takeIn (d : Draft) (passages : List Passage) :
    (passages.foldl takeIn d).template =
      ((bodies .template passages).map List.flatten).getLast?.or d.template := by
  induction passages generalizing d with
  | nil => rfl
  | cons p passages ih =>
    rw [List.foldl_cons, ih, bodies_cons]
    cases p with
    | between line => rfl
    | block name opening body closing =>
      cases name with
      | style => rfl
      | script => rfl
      | template =>
        -- the bodies behind this one have the last word
        rw [takeIn, Passage.body?, if_pos rfl, Option.toList_some, List.singleton_append, List.map_cons,
          List.getLast?_cons]
        cases ((bodies .template passages).map List.flatten).getLast? <;> rfl

/-- The script has the lines of all scripts, with the slot if there is none in front of them. -/
theorem script_foldl_takeIn (d : Draft) (passages : List Passage) :
    (passages.foldl takeIn d).script.reverse =
      d.script.reverse ++ withSlotIf d.slotted (scriptLines passages) := by
  induction passages generalizing d with
  | nil => cases hslotted : d.slotted <;> simp [scriptLines, withSlotIf, withSlot]
  | cons p passages ih =>
    rw [List.foldl_cons, ih, scriptLines_cons]
    cases p with
    | between line => rfl
    | block name opening body closing =>
      cases name with
      | style => rfl
      | template => rfl
      | script =>
        simp [takeIn, addScript, Passage.body?, withSlotIf_append]

end Draft

/-! ## Taking apart what was put together -/

/-- If no script line opens the exported object in front of the first template, a file is taken apart
into the bodies of its styles, the body of its last template, and its script lines with the slot behind
the first one that opens the exported object.  Otherwise this is a defect. -/
theorem takeApart_compose {passages : List Passage} (h : ∀ p ∈ passages, p.WellFormed)
    (hbalanced : ∀ p ∈ passages, p.Balanced) :
    (ExportsBehindTemplate passages → takeApart (compose passages) =
      { styles := (bodies .style passages).map List.flatten
        rest := .ok
          { template := ((bodies .template passages).map List.flatten).getLast?
            script := withSlot (scriptLines passages) } }) ∧
    (¬ ExportsBehindTemplate passages →
      (takeApart (compose passages)).rest = .error .missingTemplate) := by
  have hrest : ({} : Draft).AtRest := ⟨rfl, rfl⟩
  have hlines : Text.lines (compose passages) = passages.flatMap Passage.lines := by
    apply Text.lines_flatten
    intro line hline
    obtain ⟨p, hp, hmem⟩ := List.mem_flatMap.1 hline
    exact (h p hp).isLine hmem
  rw [takeApart, hlines]
  refine ⟨fun hexports => ?_, hrest.read_passages_of_exports h hbalanced rfl rfl⟩
  rw [hrest.read_passages h hbalanced fun _ => hexports, (hrest.foldl_takeIn passages).finish,
    Draft.styles_foldl_takeIn, Draft.template_foldl_takeIn, Draft.script_foldl_takeIn, Option.or_none]
  rfl

/-- A file with two styles, a template that has another one inside, and a script. -/
def samplePassages : List Passage :=
  [.between "<!-- sample -->\n".toList,
    .block .style "<style>\n".toList ["b \x7b\x7d\n".toList] "</style>\n".toList,
    .block .template "<template>\n".toList
      ["<template v-if=\"a\">\n".toList, "<b/>\n".toList, "</template>\n".toList]
      "</template>\n".toList,
    .between "\n".toList,
    .block .script "<script>\n".toList
      ["var a;\n".toList, "module.exports = \x7b\n".toList, "\x7d;\n".toList] "</script>\n".toList,
    .block .style "<style>\n".toList ["i \x7b\x7d\n".toList] "</style>\n".toList]

/-- This file is taken apart into what it was put together from. -/
theorem takeApart_samplePassages :
    (∀ p ∈ samplePassages, p.WellFormed) ∧ (∀ p ∈ samplePassages, p.Balanced) ∧
      ExportsBehindTemplate samplePassages ∧
      takeApart (compose samplePassages) =
        { styles := ["b \x7b\x7d\n".toList, "i \x7b\x7d\n".toList]
          rest := .ok
            { template := some "<template v-if=\"a\">\n<b/>\n</template>\n".toList
              script :=
                [.code "var a;\n".toList, .code "module.exports = \x7b\n".toList, .slot,
                  .code "\x7d;\n".toList] } } := by
  have h : ∀ p ∈ samplePassages, p.WellFormed := by decide +kernel
  have hbalanced : ∀ p ∈ samplePassages, p.Balanced := by decide +kernel
  have hexports : ExportsBehindTemplate samplePassages := by decide +kernel
  refine ⟨h, hbalanced, hexports, ((takeApart_compose h hbalanced).1 hexports).trans ?_⟩
  rfl

/-- A template that opens another one and does not close it. -/
def unclosedPassage : Passage :=
  .block .template "<template>\n".toList ["<template>\n".toList] "</template>\n".toList

/-- A script that opens the exported object. -/
def exportingPassage : Passage :=
  .block .script "<script>\n".toList ["module.exports = \x7b\n".toList, "\x7d;\n".toList]
    "</script>\n".toList

/-- A template that stays open but is not balanced has no end.  And where there is no template at all, the
exported object must not be opened, though it is opened in front of none. -/
theorem takeApart_unbalanced :
    (unclosedPassage.WellFormed ∧ ExportsBehindTemplate [unclosedPassage] ∧
      (takeApart (compose [unclosedPassage])).rest = .error (.unterminated .template)) ∧
    exportingPassage.WellFormed ∧ exportingPassage.Balanced ∧
      bodies .template [exportingPassage] = [] ∧
      (takeApart (compose [exportingPassage])).rest = .error .missingTemplate := by
  have hunclosed : unclosedPassage.WellFormed ∧ ExportsBehindTemplate [unclosedPassage] := by
    decide +kernel
  have hexporting : exportingPassage.WellFormed ∧ exportingPassage.Balanced := by
    decide +kernel
  exact ⟨⟨hunclosed.1, hunclosed.2, rfl⟩, hexporting.1, hexporting.2, rfl, rfl⟩

end Component

end ScriptBundle
