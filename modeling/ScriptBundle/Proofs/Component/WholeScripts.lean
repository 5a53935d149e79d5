/-
# Whole scripts

A script should go on up to its closing tag, whatever its lines begin with.  But a line of a script that
begins with an opening tag, as one of a text over several lines may, is read as this tag: it does not get
into the script, and may take lines behind it into a style block or a template.  Where the block ends the
script goes on, even if its closing tag was among these lines.

## Main content

- `Component.wholeScripts` are the lines of scripts that go on up to their closing tags.
- `Component.isKeptUpToTag_codeFrom`: the script that is read is the whole one up to the first line that
  begins with an opening tag.
- `Component.code_eq_wholeScripts_iff`: which scripts are kept whole.
-/
import Mathlib.Data.List.TakeWhile
import ScriptBundle.Proofs.Component.ScriptLines

namespace ScriptBundle

namespace Component

variable {text line closing : Text} {lines body : List Text} {sections : List Section}
  {component : Component}

/-! ## Lines of scripts -/

/-- A line begins with no opening tag. -/
def OpensNothing (line : Text) : Prop := ∀ name, ¬ OpensBlock name line

instance : DecidablePred OpensNothing :=
  fun line => inferInstanceAs (Decidable (∀ name, ¬ OpensBlock name line))

/-- Where a line stands, if scripts go on up to their closing tags. -/
inductive Place where
  /-- Outside of everything. -/
  | outside
  /-- In a script. -/
  | script
  /-- In a style block or a template outside of scripts. -/
  | inside (opened : OpenBlock)

/-- The lines of scripts that go on up to their closing tags.  Style blocks and templates are those outside
of scripts, and what stands in them opens no script. -/
def wholeScripts : Place → List Text → List Text
  | _, [] => []
  | .outside, line :: lines =>
    if OpensBlock .style line then wholeScripts (.inside (.start .style)) lines
    else if OpensBlock .template line then wholeScripts (.inside (.start .template)) lines
    else if OpensBlock .script line then wholeScripts .script lines
    else wholeScripts .outside lines
  | .script, line :: lines =>
    if ClosesBlock .script line then wholeScripts .outside lines
    else line :: wholeScripts .script lines
  | .inside opened, line :: lines =>
    if opened.Ends line then wholeScripts .outside lines
    else wholeScripts (.inside (opened.collect line)) lines

/-- The text of a script line that is no slot. -/
def Line.code? : Line → Option Text
  | .code text => some text
  | .slot => none

/-- The script of a component without its slot. -/
def code (component : Component) : List Text := component.script.filterMap Line.code?

/-- Without the slot, a script has its lines. -/
theorem code_withSlot (lines : List Text) : (withSlot lines).filterMap Line.code? = lines := by
  have hcode (lines : List Text) : (lines.map Line.code).filterMap Line.code? = lines := by
    rw [List.filterMap_map]
    exact List.filterMap_some
  induction lines with
  | nil => rfl
  | cons line lines ih =>
    rw [withSlot]
    split
    · exact congrArg (line :: ·) (hcode lines)
    · exact congrArg (line :: ·) ih

/-! ## Reading by sections -/

/-- Where lines stand that are read in a region. -/
def Region.place : Region → Place
  | .outside => .outside
  | .script => .script

/-- A block outside of scripts is passed over. -/
theorem wholeScripts_takes {opened : OpenBlock} (h : opened.Takes body closing) (rest : List Text) :
    wholeScripts (.inside opened) (body ++ closing :: rest) = wholeScripts .outside rest := by
  induction body generalizing opened with
  | nil => exact if_pos h.2
  | cons line body ih =>
    rw [List.cons_append, wholeScripts, if_neg h.1.1]
    exact ih ⟨h.1.2, h.2⟩

/-- The opening tag of a block, outside of scripts, opens the block. -/
theorem wholeScripts_opening {block : Block} (h : OpensBlock block.tagName line) (rest : List Text) :
    wholeScripts .outside (line :: rest) = wholeScripts (.inside (.start block)) rest := by
  cases block with
  | style => exact if_pos h
  | template =>
    have hstyle : ¬ OpensBlock .style line := h.not_of_ne (by decide)
    exact (if_neg hstyle).trans (if_pos h)

/-- A line between blocks begins with no opening tag, or with that of a script. -/
theorem Section.IsRead.opensNothing_iff (h : (Section.between line).IsRead) :
    OpensNothing line ↔ ¬ OpensBlock .script line := by
  refine ⟨fun hnothing => hnothing .script, fun hscript name => ?_⟩
  cases name with
  | style => exact h .style
  | template => exact h .template
  | script => exact hscript

/-- A script line between blocks begins with no opening tag. -/
theorem Section.IsRead.opensNothing_of_scriptLine? {region : Region} {code : Text}
    (h : (Section.between line).IsRead) (hcode : scriptLine? region line = some code) :
    OpensNothing code := by
  obtain ⟨rfl, -, hopens, -⟩ := scriptLine?_eq_some_iff.1 hcode
  exact h.opensNothing_iff.2 hopens

/-- The lines of the script begin with no opening tags. -/
theorem opensNothing_of_mem_codeFrom {region : Region} (h : ∀ s ∈ sections, s.IsRead)
    (hline : line ∈ codeFrom region sections) : OpensNothing line := by
  induction sections generalizing region with
  | nil => cases hline
  | cons s sections ih =>
    obtain ⟨hs, hsections⟩ := List.forall_mem_cons.1 h
    cases s with
    | region block opening body closing => exact ih hsections hline
    | between first =>
      rcases List.mem_append.1 hline with hfirst | hrest
      · exact hs.opensNothing_of_scriptLine? (Option.mem_toList.1 hfirst)
      · exact ih hsections hrest

/-- Between blocks, the whole scripts go on as the script that is read, unless a script is opened inside of
another one. -/
theorem wholeScripts_between {region : Region} (h : (Section.between line).IsRead)
    (hregion : region = .outside ∨ ¬ OpensBlock .script line) (rest : List Text) :
    wholeScripts region.place (line :: rest) =
      (scriptLine? region line).toList ++ wholeScripts (regionBehind region line).place rest := by
  cases region with
  | outside =>
    have hstyle : ¬ OpensBlock .style line := h .style
    have htemplate : ¬ OpensBlock .template line := h .template
    rw [scriptLine?_outside, Region.place, wholeScripts, if_neg hstyle, if_neg htemplate, regionBehind]
    by_cases hopens : OpensBlock .script line
    · rw [if_pos hopens, if_pos hopens]
      rfl
    · rw [if_neg hopens, if_neg hopens, ite_self]
      rfl
  | script =>
    have hopens : ¬ OpensBlock .script line := hregion.resolve_left (by decide)
    rw [Region.place, wholeScripts]
    by_cases hcloses : ClosesBlock .script line
    · rw [if_pos hcloses, scriptLine?, if_pos (.inr (.inl hcloses)), regionBehind, if_neg hopens,
        if_pos hcloses]
      rfl
    · have hline : scriptLine? .script line = some line :=
        scriptLine?_eq_some_iff.2 ⟨rfl, rfl, hopens, hcloses⟩
      rw [if_neg hcloses, regionBehind_of_scriptLine? hline, hline]
      rfl

/-- The lines of some script are those of the whole one up to the first line that begins with an opening tag.
If there is none, they are all lines of the whole one. -/
def IsKeptUpToTag (codes whole : List Text) : Prop :=
  ∃ rest, codes = whole.takeWhile (OpensNothing ·) ++ rest ∧
    ((∀ line ∈ whole, OpensNothing line) → rest = [])

/-- Of a script that goes on with an opening tag nothing need be kept. -/
theorem isKeptUpToTag_of_opens {name : TagName} (h : OpensBlock name line)
    (codes rest : List Text) : IsKeptUpToTag codes (wholeScripts .script (line :: rest)) := by
  have hline : ¬ OpensNothing line := fun hnothing => hnothing name h
  have hcloses : ¬ ClosesBlock .script line := fun hcloses => hcloses.not_opensBlock name h
  rw [wholeScripts, if_neg hcloses]
  refine ⟨codes, ?_, fun hall => absurd (hall line (List.mem_cons_self ..)) hline⟩
  rw [List.takeWhile_cons_of_neg (by simpa using hline), List.nil_append]

/-- Lines without opening tags are kept. -/
theorem IsKeptUpToTag.append {front codes whole : List Text} (hfront : ∀ line ∈ front, OpensNothing line)
    (h : IsKeptUpToTag codes whole) : IsKeptUpToTag (front ++ codes) (front ++ whole) := by
  obtain ⟨rest, rfl, hrest⟩ := h
  refine ⟨rest, ?_, fun hall => hrest fun line hline => hall line (List.mem_append_right _ hline)⟩
  rw [List.takeWhile_append_of_pos (by simpa using hfront), List.append_assoc]

/-- The lines of the script that is read are those of the whole script up to the first one that begins with
an opening tag. -/
theorem isKeptUpToTag_codeFrom (region : Region) (h : ∀ s ∈ sections, s.IsRead) :
    IsKeptUpToTag (codeFrom region sections)
      (wholeScripts region.place (sections.flatMap Section.lines)) := by
  induction sections generalizing region with
  | nil => exact ⟨[], by cases region <;> rfl, fun _ => rfl⟩
  | cons s sections ih =>
    obtain ⟨hs, hsections⟩ := List.forall_mem_cons.1 h
    cases s with
    | region block opening body closing =>
      obtain ⟨hopens, -, htakes, -⟩ := hs
      rw [List.flatMap_cons, Section.lines, List.cons_append, List.append_assoc, List.singleton_append]
      cases region with
      | outside =>
        rw [Region.place, wholeScripts_opening hopens, wholeScripts_takes htakes]
        exact ih .outside hsections
      | script =>
        -- the block is a part of the whole script, but not of the one that is read
        exact isKeptUpToTag_of_opens hopens _ _
    | between line =>
      rw [List.flatMap_cons, Section.lines, List.singleton_append]
      by_cases hregion : region = .outside ∨ ¬ OpensBlock .script line
      · rw [wholeScripts_between hs hregion, codeFrom]
        exact (ih _ hsections).append fun code hcode =>
          hs.opensNothing_of_scriptLine? (Option.mem_toList.1 hcode)
      · obtain ⟨hscript, hopens⟩ := not_or.1 hregion
        rw [not_not] at hopens
        cases region with
        | outside => exact absurd rfl hscript
        | script => exact isKeptUpToTag_of_opens hopens _ _

/-! ## Scripts of components -/

/-- The script of a component without defects.  Its lines are those that stand in a script between the
sections of the file, and none of them begins with an opening tag.  They are the lines of the whole scripts of
the file up to the first one that begins with an opening tag; and they are the whole scripts, with nothing
missing and nothing from elsewhere, exactly if there is no such line in them. -/
theorem code_eq_wholeScripts_iff (h : (takeApart text).rest = .ok component) :
    (∃ sections, Cut (Text.lines text) sections ∧ component.code = codeFrom .outside sections) ∧
      (∀ line ∈ component.code, OpensNothing line) ∧
      (wholeScripts .outside (Text.lines text)).takeWhile (OpensNothing ·) <+: component.code ∧
      (component.code = wholeScripts .outside (Text.lines text) ↔
        ∀ line ∈ wholeScripts .outside (Text.lines text), OpensNothing line) := by
  obtain ⟨sections, hcut, hparts⟩ := sections_of_takeApart h
  obtain rfl : _ = component := Except.ok.inj ((congrArg Parts.rest hparts).symm.trans h)
  have hcode : code ⟨(texts .template sections).getLast?, withSlot (codeFrom .outside sections)⟩ =
      codeFrom .outside sections := code_withSlot _
  rw [hcode]
  have hnothing : ∀ line ∈ codeFrom .outside sections, OpensNothing line :=
    fun line hline => opensNothing_of_mem_codeFrom hcut.isRead hline
  obtain ⟨rest, hkept, hall⟩ := isKeptUpToTag_codeFrom .outside hcut.isRead
  rw [hcut.lines_eq, Region.place] at hkept hall
  refine ⟨⟨sections, hcut, rfl⟩, hnothing, ⟨rest, hkept.symm⟩, fun heq => heq ▸ hnothing,
    fun hwhole => ?_⟩
  rw [hkept, hall hwhole, List.append_nil, List.takeWhile_eq_self_iff]
  exact fun line hline => decide_eq_true (hwhole line hline)

/-- A file with a style block in a text of its script. -/
def quotedStyle : Text :=
  ("<script>\nvar t = `\n<style>\np \x7b\x7d\n</style>\n`;\n</script>\n").toList

/-- What the script of this file is read as. -/
def quotedStyleComponent : Component where
  template := none
  script := [.code "var t = `\n".toList, .code "`;\n".toList]

/-- This file has no defects. -/
theorem takeApart_quotedStyle :
    takeApart quotedStyle = ⟨["p \x7b\x7d\n".toList], .ok quotedStyleComponent⟩ := by
  rfl

/-- The script of this file is kept up to the style block, but not whole. -/
theorem code_quotedStyle :
    (takeApart quotedStyle).rest = .ok quotedStyleComponent ∧
      ["var t = `\n".toList] <+: quotedStyleComponent.code ∧
      quotedStyleComponent.code ≠ wholeScripts .outside (Text.lines quotedStyle) := by
  have hrest : (takeApart quotedStyle).rest = .ok quotedStyleComponent :=
    congrArg Parts.rest takeApart_quotedStyle
  obtain ⟨-, -, hkept, hwhole⟩ := code_eq_wholeScripts_iff hrest
  have hfront : (wholeScripts .outside (Text.lines quotedStyle)).takeWhile (OpensNothing ·) =
      ["var t = `\n".toList] := by
    decide +kernel
  have htag : ¬ ∀ line ∈ wholeScripts .outside (Text.lines quotedStyle), OpensNothing line := by
    decide +kernel
  exact ⟨hrest, hfront ▸ hkept, fun heq => htag (hwhole.1 heq)⟩

/-- A file with the opening tag of a style block in its script, and with its closing tag behind the
script. -/
def torn : Text := ("<script>\na;\n<style>\n</script>\n</style>\nb;\n").toList

/-- Lines of a script can get lost in a style block, and lines from behind the script can get into it. -/
theorem code_ne_wholeScripts :
    (takeApart quotedStyle = ⟨["p \x7b\x7d\n".toList], .ok quotedStyleComponent⟩ ∧
      quotedStyleComponent.code = ["var t = `\n".toList, "`;\n".toList] ∧
      wholeScripts .outside (Text.lines quotedStyle) =
        ["var t = `\n".toList, "<style>\n".toList, "p \x7b\x7d\n".toList, "</style>\n".toList,
          "`;\n".toList]) ∧
    (takeApart torn).rest = .ok ⟨none, [.code "a;\n".toList, .code "b;\n".toList]⟩ ∧
      "b;\n".toList ∉ wholeScripts .outside (Text.lines torn) := by
  refine ⟨⟨takeApart_quotedStyle, rfl, ?_⟩, ?_, ?_⟩ <;> decide +kernel

end Component

end ScriptBundle
