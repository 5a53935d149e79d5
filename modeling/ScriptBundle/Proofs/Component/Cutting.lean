/-
# Cutting component files

Every component file without defects is cut into sections, and taken apart section by section: a block adds
its text, and a line between blocks goes into the script if it stands in one.

## Main content

- `Component.Draft.takeSection` says what a section adds to a component, and
  `Component.Draft.read_sections` that reading its lines adds just that.
- `Component.Draft.CutBehind` says how lines are cut behind an open block, and
  `Component.Draft.cutBehind_of_read` that lines without a defect are.
- `Component.Draft.IsAt` says what sections from the beginning of a file add up to.
- `Component.sections_of_takeApart`: what a file is taken apart into, from its sections.
-/
import ScriptBundle.Proofs.Component.Sections

namespace ScriptBundle

namespace Component

variable {line closing : Text} {body : List Text}

/-! ## Adding to a component -/

namespace Draft

variable {d next : Draft} {opened : OpenBlock} {lines rest : List Text} {sections : List Section}
  {component : Component}

/-- What script lines add to a component. -/
def addScript (d : Draft) (lines : List Text) : Draft :=
  { d with
    script := (withSlotIf d.slotted lines).reverse ++ d.script
    slotted := d.slotted || lines.any exports }

/-- Script lines may be added one after the other. -/
theorem addScript_append (d : Draft) (lines more : List Text) :
    d.addScript (lines ++ more) = (d.addScript lines).addScript more := by
  simp [addScript, withSlotIf_append, Bool.or_assoc]

/-- No script lines add nothing. -/
theorem addScript_nil (d : Draft) : d.addScript [] = d := by
  cases d with
  | mk styles template script region pending slotted => cases slotted <;> rfl

/-- What the text of a block adds to a component. -/
def put (d : Draft) (text : Text) : Block → Draft
  | .style => { d with styles := text :: d.styles }
  | .template => { d with template := some text }

/-- What a section adds to a component. -/
def takeSection (d : Draft) : Section → Draft
  | .between line =>
    { d.addScript (scriptLine? d.region line).toList with region := regionBehind d.region line }
  | .region block _ body _ => d.put body.flatten block

@[simp] theorem pending_put {text : Text} {block : Block} :
    (d.put text block).pending = d.pending := by
  cases block <;> rfl

/-- No section leaves a block open. -/
@[simp] theorem pending_takeSection {s : Section} : (d.takeSection s).pending = d.pending := by
  cases s with
  | between line => rfl
  | region block opening body closing => exact pending_put

/-! ## Reading sections -/

/-- A line outside of style blocks and templates, by its tag. -/
theorem tagStep_eq (d : Draft) (line : Text) :
    d.tagStep line =
      if OpensBlock .style line then
        if Text.occurs "scoped".toList (Text.trim line) then .error .scopedStyle
        else .ok { d with pending := some (.style []) }
      else if OpensBlock .template line then .ok { d with pending := some (.template 1 []) }
      else if OpensBlock .script line then .ok { d with region := .script }
      else if ClosesBlock .script line then .ok { d with region := .outside }
      else if d.region = .script then d.scriptStep line
      else .ok d :=
  rfl

/-- A line that ends an open block puts the text of the block into the component. -/
theorem step_of_ends (h : d.pending = some opened) (hends : opened.Ends line) :
    d.step line =
      .ok { d.put (bodyText opened.collected) opened.block with pending := none } := by
  simp only [step, h]
  cases opened <;> exact if_pos hends

/-- Any other line in an open block is collected. -/
theorem step_of_not_ends (h : d.pending = some opened) (hends : ¬ opened.Ends line) :
    d.step line = .ok { d with pending := some (opened.collect line) } := by
  simp only [step, h]
  cases opened <;> exact if_neg hends

/-- The lines of a body are collected. -/
theorem read_keeps (hpending : d.pending = some opened) (h : opened.Keeps body) (rest : List Text) :
    d.read (body ++ rest) =
      { d with pending := some (body.foldl OpenBlock.collect opened) }.read rest := by
  induction body generalizing d opened with
  | nil => rw [List.nil_append, List.foldl_nil, ← hpending]
  | cons line body ih =>
    rw [List.cons_append, read_cons_of_ok (step_of_not_ends hpending h.1), ih rfl h.2, List.foldl_cons]

/-- The line behind a body ends the block. -/
theorem read_takes (hpending : d.pending = some opened) (h : opened.Takes body closing)
    (rest : List Text) :
    d.read (body ++ closing :: rest) =
      { d.put (bodyText (body.foldl OpenBlock.collect opened).collected) opened.block with
        pending := none }.read rest := by
  rw [read_keeps hpending h.1, read_cons_of_ok (step_of_ends rfl h.2), OpenBlock.block_foldl_collect]
  cases opened <;> rfl

/-- Behind the opening tag a block is open. -/
theorem step_opening {block : Block} (hpending : d.pending = none)
    (hopens : OpensBlock block.tagName line)
    (hscoped : block = .style → Text.occurs "scoped".toList (Text.trim line) = false) :
    d.step line = .ok { d with pending := some (.start block) } := by
  simp only [step, hpending]
  cases block with
  | style =>
    have hstyle : OpensBlock .style line := hopens
    rw [tagStep_eq, if_pos hstyle, hscoped rfl]
    rfl
  | template =>
    have htemplate : OpensBlock .template line := hopens
    have hstyle : ¬ OpensBlock .style line := htemplate.not_of_ne (by decide)
    rw [tagStep_eq, if_neg hstyle, if_pos htemplate]
    rfl

/-- A block adds its text. -/
theorem read_region {block : Block} {opening : Text} (hpending : d.pending = none)
    (h : (Section.region block opening body closing).IsRead) (rest : List Text) :
    d.read (opening :: (body ++ closing :: rest)) = (d.put body.flatten block).read rest := by
  obtain ⟨hopens, hscoped, htakes, hwhole⟩ := h
  have hbody : body.map Text.withNewline = body :=
    List.map_congr_left (fun line hline => if_pos (hwhole line hline)) |>.trans (List.map_id body)
  rw [read_cons_of_ok (step_opening hpending hopens hscoped), read_takes rfl htakes,
    OpenBlock.collected_foldl_collect, hbody, OpenBlock.collected_start, OpenBlock.block_start,
    List.append_nil, bodyText, List.reverse_reverse]
  cases block <;> simp only [put, ← hpending]

/-- A script line is added to the script, unless the slot belongs behind it and there is no template. -/
theorem scriptStep_eq (d : Draft) (line : Text) :
    d.scriptStep line =
      if d.template = none ∧ d.slotted = false ∧ exports line = true then .error .missingTemplate
      else .ok (d.addScript [line]) := by
  obtain ⟨styles, template, script, region, pending, slotted⟩ := d
  cases hline : exports line <;> cases template <;> cases slotted <;>
    simp_all [scriptStep, addScript, withSlotIf, withSlot, exports]

/-- A line is added to the script, if there is a template or the line does not ask for one. -/
theorem scriptStep_of_template (h : d.template = none → ¬ exports line) :
    d.scriptStep line = .ok (d.addScript [line]) := by
  rw [scriptStep_eq, if_neg fun hmissing => h hmissing.1 hmissing.2.2]

/-- Without a template and a slot, the exported object must not be opened. -/
theorem scriptStep_of_exports (htemplate : d.template = none) (hslotted : d.slotted = false)
    (h : exports line) : d.scriptStep line = .error .missingTemplate := by
  rw [scriptStep_eq, if_pos ⟨htemplate, hslotted, h⟩]

/-- A line between blocks is a script line, or shows where the script begins or ends. -/
theorem step_between (hpending : d.pending = none) (h : (Section.between line).IsRead) :
    d.step line =
      match scriptLine? d.region line with
      | some code => d.scriptStep code
      | none => .ok { d with region := regionBehind d.region line } := by
  have hstyle : ¬ OpensBlock .style line := h .style
  have htemplate : ¬ OpensBlock .template line := h .template
  simp only [step, hpending]
  rw [tagStep_eq, if_neg hstyle, if_neg htemplate]
  unfold scriptLine? regionBehind
  by_cases hopens : OpensBlock .script line
  · simp [hopens, hpending]
  by_cases hcloses : ClosesBlock .script line
  · simp [hopens, hcloses, hpending]
  cases hregion : d.region with
  | outside =>
    simp only [hopens, hcloses, reduceCtorEq, false_or, if_false, if_true]
    rw [← hregion, ← hpending]
  | script => simp [hopens, hcloses]

/-- A line between blocks that is no defect adds what it should.  If the slot belongs behind it, there is a
template. -/
theorem of_step_between (hpending : d.pending = none) (h : (Section.between line).IsRead)
    (hstep : d.step line = .ok next) :
    next = d.takeSection (.between line) ∧
      ∀ code, scriptLine? d.region line = some code → exports code → d.slotted = false →
        d.template.isSome = true := by
  rw [step_between hpending h] at hstep
  cases hline : scriptLine? d.region line with
  | none =>
    rw [hline] at hstep
    refine ⟨?_, nofun⟩
    rw [takeSection, hline, Option.toList_none, addScript_nil]
    exact (Except.ok.inj hstep).symm
  | some code =>
    rw [hline] at hstep
    simp only [scriptStep_eq] at hstep
    split at hstep
    case isTrue => cases hstep
    case isFalse hmissing =>
    obtain rfl := Except.ok.inj hstep
    obtain ⟨-, hregion, -⟩ := scriptLine?_eq_some_iff.1 hline
    constructor
    · rw [takeSection, hline, regionBehind_of_scriptLine? hline, ← hregion]
      rfl
    · rintro other hother hexports hslotted
      obtain rfl := Option.some.inj hother
      rw [Option.isSome_iff_ne_none]
      exact fun hnone => hmissing ⟨hnone, hslotted, hexports⟩

/-- The region is the one behind the sections. -/
theorem region_foldl_takeSection (d : Draft) (sections : List Section) :
    (sections.foldl takeSection d).region = regionAfter d.region sections := by
  induction sections generalizing d with
  | nil => rfl
  | cons s sections ih =>
    rw [List.foldl_cons, ih]
    cases s with
    | between line => rfl
    | region block opening body closing => cases block <;> rfl

/-- Either a section is taken in, whatever follows, or it opens the exported object without a template, and
nothing behind it is read. -/
theorem read_section_cases {s : Section} (hpending : d.pending = none) (h : s.IsRead) :
    (∀ rest, d.read (s.lines ++ rest) = (d.takeSection s).read rest) ∨
      (∃ code ∈ codeFrom d.region [s], exports code) ∧
        ∃ styles, ∀ rest, d.read (s.lines ++ rest) = ⟨styles, .error .missingTemplate⟩ := by
  cases s with
  | region block opening body closing =>
    refine .inl fun rest => ?_
    rw [Section.lines, List.cons_append, List.append_assoc]
    exact read_region hpending h rest
  | between line =>
    cases hstep : d.step line with
    | ok next =>
      refine .inl fun rest => ?_
      rw [Section.lines, List.singleton_append, read_cons_of_ok hstep,
        (of_step_between hpending h hstep).1]
    | error defect =>
      have hread (rest : List Text) := read_cons_of_error hstep rest
      rw [step_between hpending h] at hstep
      cases hline : scriptLine? d.region line with
      | none =>
        rw [hline] at hstep
        cases hstep
      | some code =>
        simp only [hline, scriptStep_eq] at hstep
        split at hstep
        case isFalse => cases hstep
        case isTrue hmissing =>
          obtain rfl := Except.error.inj hstep
          exact .inr ⟨⟨code, by simp [codeFrom, hline], hmissing.2.2⟩, d.styles.reverse, hread⟩

/-- Either all sections are taken in, whatever follows, or they open the exported object without a template,
and nothing behind this is read. -/
theorem read_sections_cases (hpending : d.pending = none) (h : ∀ s ∈ sections, s.IsRead) :
    (∀ rest, d.read (sections.flatMap Section.lines ++ rest) =
        (sections.foldl takeSection d).read rest) ∨
      (∃ code ∈ codeFrom d.region sections, exports code) ∧
        ∃ styles, ∀ rest, d.read (sections.flatMap Section.lines ++ rest) =
          ⟨styles, .error .missingTemplate⟩ := by
  induction sections generalizing d with
  | nil => exact .inl fun rest => rfl
  | cons s sections ih =>
    obtain ⟨hs, hsections⟩ := List.forall_mem_cons.1 h
    have hcodes : codeFrom d.region (s :: sections) =
        codeFrom d.region [s] ++ codeFrom (d.takeSection s).region sections := by
      rw [← List.singleton_append, codeFrom_append, ← region_foldl_takeSection]
      rfl
    simp only [List.flatMap_cons, List.append_assoc, hcodes, List.mem_append]
    rcases read_section_cases hpending hs with hfirst | ⟨⟨code, hcode, hexports⟩, styles, hread⟩
    · simp only [hfirst]
      rcases ih (pending_takeSection.trans hpending) hsections with
        hrest | ⟨⟨code, hcode, hexports⟩, hread⟩
      · exact .inl hrest
      · exact .inr ⟨⟨code, .inr hcode, hexports⟩, hread⟩
    · exact .inr ⟨⟨code, .inl hcode, hexports⟩, styles, fun rest => hread _⟩

/-- If the lines behind sections are reached without a defect, all sections have been taken in. -/
theorem read_sections (hpending : d.pending = none) (h : ∀ s ∈ sections, s.IsRead)
    (hread : (d.read (sections.flatMap Section.lines ++ rest)).rest = .ok component) :
    d.read (sections.flatMap Section.lines ++ rest) = (sections.foldl takeSection d).read rest := by
  rcases read_sections_cases hpending h with htaken | ⟨-, styles, hmissing⟩
  · exact htaken rest
  · rw [hmissing] at hread
    cases hread

/-! ## Cutting lines -/

/-- Lines are cut into sections, behind the rest of the block that is open in front of them. -/
def CutBehind : Option OpenBlock → List Text → Prop
  | none, lines => ∃ sections, Cut lines sections
  | some opened, lines => ∃ body closing rest sections,
    lines = body ++ closing :: rest ∧ opened.Takes body closing ∧
      (∀ line ∈ body, line.getLast? = some '\n') ∧ Cut rest sections

/-- A line that opens a block without a defect opens no scoped one. -/
theorem not_scoped_of_step {block : Block} (hpending : d.pending = none)
    (hopens : OpensBlock block.tagName line) (hstep : d.step line = .ok next) :
    block = .style → Text.occurs "scoped".toList (Text.trim line) = false := by
  rintro rfl
  have hstyle : OpensBlock .style line := hopens
  simp only [step, hpending] at hstep
  rw [tagStep_eq, if_pos hstyle] at hstep
  split at hstep
  · cases hstep
  · next hscoped => exact Bool.not_eq_true _ ▸ hscoped

/-- A line in front of lines that are cut, read between blocks: it opens the first block, or is a section of
its own. -/
theorem cutBehind_cons_of_none (hpending : d.pending = none) (hstep : d.step line = .ok next)
    (h : CutBehind next.pending lines) : CutBehind none (line :: lines) := by
  by_cases hopens : ∃ block : Block, OpensBlock block.tagName line
  · obtain ⟨block, hopens⟩ := hopens
    have hscoped := not_scoped_of_step hpending hopens hstep
    rw [step_opening hpending hopens hscoped] at hstep
    obtain rfl := Except.ok.inj hstep
    obtain ⟨body, closing, rest, sections, rfl, htakes, hbody, hcut⟩ := h
    refine ⟨.region block line body closing :: sections, ?_, ?_⟩
    · rw [List.flatMap_cons, hcut.lines_eq, Section.lines, List.cons_append, List.append_assoc,
        List.singleton_append]
    · exact List.forall_mem_cons.2 ⟨⟨hopens, hscoped, htakes, hbody⟩, hcut.isRead⟩
  · have hread : (Section.between line).IsRead := fun block hblock => hopens ⟨block, hblock⟩
    obtain ⟨rfl, -⟩ := of_step_between hpending hread hstep
    rw [pending_takeSection, hpending] at h
    obtain ⟨sections, hcut⟩ := h
    refine ⟨.between line :: sections, ?_, List.forall_mem_cons.2 ⟨hread, hcut.isRead⟩⟩
    rw [List.flatMap_cons, hcut.lines_eq]
    rfl

/-- A line in front of lines that are cut, read in a block: it ends the block, or belongs to its body. -/
theorem cutBehind_cons_of_some (hpending : d.pending = some opened) (hstep : d.step line = .ok next)
    (hline : lines ≠ [] → line.getLast? = some '\n') (h : CutBehind next.pending lines) :
    CutBehind (some opened) (line :: lines) := by
  by_cases hends : opened.Ends line
  · rw [step_of_ends hpending hends] at hstep
    obtain rfl := Except.ok.inj hstep
    obtain ⟨sections, hcut⟩ := h
    exact ⟨[], line, lines, sections, rfl, ⟨trivial, hends⟩, by simp, hcut⟩
  · rw [step_of_not_ends hpending hends] at hstep
    obtain rfl := Except.ok.inj hstep
    obtain ⟨body, closing, rest, sections, rfl, htakes, hbody, hcut⟩ := h
    exact ⟨line :: body, closing, rest, sections, rfl, ⟨⟨hends, htakes.1⟩, htakes.2⟩,
      List.forall_mem_cons.2 ⟨hline (by simp), hbody⟩, hcut⟩

/-- Lines that are read without a defect are cut, behind whatever was open in front of them. -/
theorem cutBehind_of_read
    (hwhole : ∀ front line back, lines = front ++ line :: back → back ≠ [] →
      line.getLast? = some '\n')
    (h : (d.read lines).rest = .ok component) : CutBehind d.pending lines := by
  induction lines generalizing d with
  | nil =>
    cases hpending : d.pending with
    | none => exact ⟨[], rfl, by simp⟩
    | some opened => simp [finish, hpending] at h
  | cons line lines ih =>
    cases hstep : d.step line with
    | error defect =>
      rw [read_cons_of_error hstep] at h
      cases h
    | ok next =>
      rw [read_cons_of_ok hstep] at h
      have hcut : CutBehind next.pending lines :=
        ih (fun front other back heq => hwhole (line :: front) other back (by rw [heq]; rfl)) h
      cases hpending : d.pending with
      | none => exact cutBehind_cons_of_none hpending hstep hcut
      | some opened => exact cutBehind_cons_of_some hpending hstep (hwhole [] line lines rfl) hcut

/-! ## What sections add -/

/-- The styles are the texts of the style blocks. -/
theorem styles_foldl_takeSection (d : Draft) (sections : List Section) :
    (sections.foldl takeSection d).styles.reverse = d.styles.reverse ++ texts .style sections := by
  induction sections generalizing d with
  | nil => exact (List.append_nil _).symm
  | cons s sections ih =>
    rw [List.foldl_cons, ih, texts_cons]
    cases s with
    | between line => rfl
    | region block opening body closing => cases block <;> simp [takeSection, put, Section.text?]

/-- The template is the text of the last template. -/
theorem template_foldl_takeSection (d : Draft) (sections : List Section) :
    (sections.foldl takeSection d).template = (texts .template sections).getLast?.or d.template := by
  induction sections generalizing d with
  | nil => rfl
  | cons s sections ih =>
    rw [List.foldl_cons, ih, texts_cons]
    cases s with
    | between line => rfl
    | region block opening body closing =>
      cases block with
      | style => rfl
      | template =>
        -- the templates behind this one have the last word
        rw [Section.text?, if_pos rfl, Option.toList_some, List.singleton_append, List.getLast?_cons]
        cases (texts .template sections).getLast? <;> rfl

/-- The script has the lines of the script in the sections, and the slot if there is none in front of
them. -/
theorem script_foldl_takeSection (d : Draft) (sections : List Section) :
    (sections.foldl takeSection d).script.reverse =
        d.script.reverse ++ withSlotIf d.slotted (codeFrom d.region sections) ∧
      (sections.foldl takeSection d).slotted =
        (d.slotted || (codeFrom d.region sections).any exports) := by
  induction sections generalizing d with
  | nil => cases hslotted : d.slotted <;> simp [codeFrom, withSlotIf, withSlot, hslotted]
  | cons s sections ih =>
    obtain ⟨hscript, hslotted⟩ := ih (d.takeSection s)
    rw [List.foldl_cons, hscript, hslotted]
    cases s with
    | region block opening body closing => cases block <;> exact ⟨rfl, rfl⟩
    | between line => simp [takeSection, addScript, codeFrom, withSlotIf_append, Bool.or_assoc]

/-- No section leaves a block open. -/
theorem pending_foldl_takeSection (d : Draft) (sections : List Section) :
    (sections.foldl takeSection d).pending = d.pending := by
  induction sections generalizing d with
  | nil => rfl
  | cons s sections ih => rw [List.foldl_cons, ih, pending_takeSection]

/-- A draft is what some sections from the beginning of a file add up to. -/
structure IsAt (d : Draft) (sections : List Section) : Prop where
  /-- No block is open. -/
  pending : d.pending = none
  /-- The region is the one behind the sections. -/
  region : d.region = regionAfter .outside sections
  /-- The styles are those of the sections. -/
  styles : d.styles.reverse = texts .style sections
  /-- The template is the last one of the sections. -/
  template : d.template = (texts .template sections).getLast?
  /-- The script is that of the sections. -/
  script : d.script.reverse = withSlot (codeFrom .outside sections)
  /-- There is a slot if the script opens the exported object. -/
  slotted : d.slotted = (codeFrom .outside sections).any exports

/-- Sections from the beginning of a file add up to a draft. -/
theorem isAt_foldl_takeSection (sections : List Section) :
    (sections.foldl takeSection {}).IsAt sections where
  pending := pending_foldl_takeSection _ _
  region := region_foldl_takeSection _ _
  styles := styles_foldl_takeSection _ _
  template := (template_foldl_takeSection _ _).trans Option.or_none
  script := (script_foldl_takeSection _ _).1
  slotted := (script_foldl_takeSection _ _).2

end Draft

/-! ## Taking files apart -/

variable {text : Text} {component : Component}

/-- A file without defects is cut into sections.  Its styles are the texts of the style blocks, its template
is the text of the last template, and its script has all lines of the script, with the slot behind the
first one that opens the exported object. -/
theorem sections_of_takeApart (h : (takeApart text).rest = .ok component) :
    ∃ sections, Cut (Text.lines text) sections ∧
      takeApart text =
        { styles := texts .style sections
          rest := .ok
            { template := (texts .template sections).getLast?
              script := withSlot (codeFrom .outside sections) } } := by
  obtain ⟨sections, hcut⟩ : Draft.CutBehind none (Text.lines text) :=
    Draft.cutBehind_of_read (fun front line back heq hback => Text.getLast?_of_lines heq hback) h
  have hread : ({} : Draft).read (sections.flatMap Section.lines ++ []) =
      (sections.foldl Draft.takeSection {}).read [] :=
    Draft.read_sections rfl hcut.isRead (by rwa [List.append_nil, hcut.lines_eq])
  rw [List.append_nil, hcut.lines_eq] at hread
  have hat := Draft.isAt_foldl_takeSection sections
  refine ⟨sections, hcut, ?_⟩
  rw [takeApart, hread, Draft.read_nil, Draft.finish, hat.pending, hat.styles, hat.template,
    hat.script]

end Component

end ScriptBundle
