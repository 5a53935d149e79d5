/-
# Passages of component files

A component file is put together from blocks, each with a tag on the first and on the last line, and
from lines between them.  A block is read up to its own closing tag only if nothing inside looks like
one.  In a template the tags are counted: every tag that closes one in the body has to have been opened
there, and every tag that opens one has to be closed before the block ends.

## Main content

- `Component.OpensBlock` and `Component.ClosesBlock` recognize the tags of blocks.
- `Component.StaysOpen` follows the depth of nested templates.
- `Component.Passage` is a block or a line between blocks, and `Component.compose` the text of a file.
- `Component.Passage.WellFormed` and `Component.Passage.Balanced` are the conditions on passages.
- `Component.withSlot` puts the slot into the lines of a script.
-/
import ScriptBundle.Component.Reading
import ScriptBundle.Proofs.Text.Lines

namespace ScriptBundle

namespace Component

/-! ## Tags -/

/-- The names that blocks have in their tags. -/
inductive TagName where
  /-- A style block. -/
  | style
  /-- A template. -/
  | template
  /-- A script. -/
  | script
  deriving DecidableEq

/-- The name as it is written. -/
def TagName.text : TagName → Text
  | .style => Block.style.tag
  | .template => Block.template.tag
  | .script => scriptTag

/-- A line, without the blanks around it, begins with the opening tag. -/
def OpensBlock (name : TagName) (line : Text) : Prop :=
  (openTag name.text).isPrefixOf (Text.trim line) = true

/-- A line, without the blanks around it, is the closing tag. -/
def ClosesBlock (name : TagName) (line : Text) : Prop := Text.trim line = closeTag name.text

/-- Whether a line opens the exported object. -/
def exports (line : Text) : Bool := opensExport (Text.trim line)

variable {line : Text} {name other : TagName}

instance : Decidable (OpensBlock name line) := inferInstanceAs (Decidable (_ = true))

instance : Decidable (ClosesBlock name line) := inferInstanceAs (Decidable (_ = _))

instance {P : TagName → Prop} [DecidablePred P] : Decidable (∀ name, P name) :=
  decidable_of_iff (P .style ∧ P .template ∧ P .script)
    ⟨fun ⟨hstyle, htemplate, hscript⟩ name => by cases name <;> assumption, fun h => ⟨h _, h _, h _⟩⟩

/-- A line begins with one opening tag at most. -/
theorem OpensBlock.unique (h : OpensBlock name line) (hother : OpensBlock other line) :
    name = other := by
  have hcases (a b : TagName) : openTag a.text <+: openTag b.text → a = b := by
    cases a <;> cases b <;> decide
  rw [OpensBlock, List.isPrefixOf_iff_prefix] at h hother
  rcases List.prefix_or_prefix_of_prefix h hother with hle | hge
  · exact hcases name other hle
  · exact (hcases other name hge).symm

/-- A line that begins with an opening tag begins with no other one. -/
theorem OpensBlock.not_of_ne (h : OpensBlock name line) (hne : other ≠ name) :
    ¬ OpensBlock other line :=
  fun hother => hne (hother.unique h)

/-- A closing tag is no opening tag. -/
theorem ClosesBlock.not_opensBlock (h : ClosesBlock name line) (other : TagName) :
    ¬ OpensBlock other line := by
  rw [OpensBlock, h]
  cases name <;> cases other <;> decide

/-! ## Nested templates -/

/-- The depth of nested templates behind a line: one more for every opening tag, one less for every
closing tag. -/
def depthBehind (depth : Int) (line : Text) : Int :=
  depth + Text.occurrences (openTag TagName.template.text) line -
    Text.occurrences (closeTag TagName.template.text) line

/-- From a depth on, no line of a template closes it: behind no line the depth is below one, and no line
is a closing tag where the depth is one. -/
def StaysOpen (depth : Int) : List Text → Prop
  | [] => True
  | line :: lines =>
    ¬ (ClosesBlock .template line ∧ depth = 1) ∧ 1 ≤ depthBehind depth line ∧
      StaysOpen (depthBehind depth line) lines

instance decidableStaysOpen : (depth : Int) → (lines : List Text) → Decidable (StaysOpen depth lines)
  | _, [] => isTrue trivial
  | depth, line :: lines =>
    have := decidableStaysOpen (depthBehind depth line) lines
    inferInstanceAs (Decidable (_ ∧ _ ∧ _))

/-- Where the depth does not fall below one, it is counted as it is. -/
theorem depthAfter_eq {depth : Nat} (h : 1 ≤ depthBehind depth line) :
    (depthAfter depth line : Int) = depthBehind depth line := by
  have hbehind : depthBehind depth line =
      depth + Text.occurrences (openTag Block.template.tag) line -
        Text.occurrences (closeTag Block.template.tag) line := rfl
  rw [depthAfter]
  omega

/-! ## Passages -/

/-- What stands in a component file: a block, or a line between blocks. -/
inductive Passage where
  /-- A line outside of all blocks. -/
  | between (line : Text)
  /-- A block: the line with its opening tag, the lines of its body, and the line with its closing
  tag. -/
  | block (name : TagName) (opening : Text) (body : List Text) (closing : Text)
  deriving DecidableEq

namespace Passage

/-- The lines of a passage. -/
def lines : Passage → List Text
  | between line => [line]
  | block _ opening body closing => opening :: (body ++ [closing])

/-- The body of a block of this name. -/
def body? (name : TagName) : Passage → Option (List Text)
  | between _ => none
  | block other _ body _ => if other = name then some body else none

/-- What the lines of a block must not have in them, so that the block is read to its end. -/
def Admits (opening : Text) (body : List Text) : TagName → Prop
  | .style => Text.occurs "scoped".toList (Text.trim opening) = false ∧
      ∀ line ∈ body, ¬ ClosesBlock .style line
  | .template => StaysOpen 1 body
  | .script => ∀ line ∈ body, ¬ ClosesBlock .script line ∧ ∀ name, ¬ OpensBlock name line

instance (opening : Text) (body : List Text) : DecidablePred (Admits opening body)
  | .style => inferInstanceAs (Decidable (_ ∧ _))
  | .template => inferInstanceAs (Decidable (StaysOpen 1 body))
  | .script => inferInstanceAs (Decidable (∀ line ∈ body, _ ∧ _))

/-- A passage has whole lines.  A block has its tags, and no line between blocks has an opening tag. -/
def WellFormed : Passage → Prop
  | between line => Text.IsLine line ∧ ∀ name, ¬ OpensBlock name line
  | block name opening body closing =>
    (∀ line ∈ opening :: (body ++ [closing]), Text.IsLine line) ∧ OpensBlock name opening ∧
      ClosesBlock name closing ∧ Admits opening body name

/-- In a template all nested templates are closed. -/
def Balanced : Passage → Prop
  | block .template _ body _ => body.foldl depthBehind 1 = 1
  | _ => True

instance : DecidablePred WellFormed
  | between _ => inferInstanceAs (Decidable (_ ∧ _))
  | block _ _ _ _ => inferInstanceAs (Decidable (_ ∧ _ ∧ _ ∧ _))

instance : DecidablePred Balanced
  | between _ => isTrue trivial
  | block .style _ _ _ => isTrue trivial
  | block .template _ body _ => inferInstanceAs (Decidable (body.foldl depthBehind 1 = 1))
  | block .script _ _ _ => isTrue trivial

/-- The lines of well-formed passages are whole lines. -/
theorem WellFormed.isLine {p : Passage} (h : p.WellFormed) (hline : line ∈ p.lines) :
    Text.IsLine line := by
  cases p with
  | between other =>
    rw [List.mem_singleton.1 hline]
    exact h.1
  | block name opening body closing => exact h.1 line hline

end Passage

/-- The text of a component file. -/
def compose (passages : List Passage) : Text := (passages.flatMap Passage.lines).flatten

/-- The bodies of the blocks of a name, in file order. -/
def bodies (name : TagName) (passages : List Passage) : List (List Text) :=
  passages.filterMap (Passage.body? name)

/-- The lines of all script bodies, in file order. -/
def scriptLines (passages : List Passage) : List Text := (bodies .script passages).flatten

@[simp] theorem bodies_nil (name : TagName) : bodies name [] = [] := rfl

/-- The bodies of a passage come in front of those behind it. -/
theorem bodies_cons (name : TagName) (p : Passage) (passages : List Passage) :
    bodies name (p :: passages) = (p.body? name).toList ++ bodies name passages := by
  unfold bodies
  cases hbody : p.body? name with
  | none => rw [List.filterMap_cons_none hbody, Option.toList_none, List.nil_append]
  | some body => rw [List.filterMap_cons_some hbody, Option.toList_some, List.singleton_append]

/-- The script lines of a passage come in front of those behind it. -/
theorem scriptLines_cons (p : Passage) (passages : List Passage) :
    scriptLines (p :: passages) = (p.body? .script).getD [] ++ scriptLines passages := by
  rw [scriptLines, bodies_cons, List.flatten_append]
  cases p.body? .script with
  | none => rfl
  | some body => exact congrArg (· ++ _) (List.append_nil body)

/-- Script lines with the slot behind the first one that opens the exported object. -/
def withSlot : List Text → List Line
  | [] => []
  | line :: lines =>
    if exports line then .code line :: .slot :: lines.map .code else .code line :: withSlot lines

/-- No script line that opens the exported object stands in front of the first template.  Without a
template there is no such line at all. -/
def ExportsBehindTemplate (passages : List Passage) : Prop :=
  ∀ line ∈ scriptLines (passages.takeWhile fun p => (p.body? .template).isNone), ¬ exports line

instance : DecidablePred ExportsBehindTemplate :=
  fun _ => inferInstanceAs (Decidable (∀ line ∈ _, _))

/-- A passage does not open the exported object. -/
def Passage.ExportsNothing (p : Passage) : Prop :=
  ∀ body, p.body? .script = some body → ∀ line ∈ body, ¬ exports line

/-- The first passage must not open the exported object, and if it is no template, those behind it have to
wait for one as well. -/
theorem exportsBehindTemplate_cons {p : Passage} {passages : List Passage} :
    ExportsBehindTemplate (p :: passages) ↔
      p.ExportsNothing ∧ ((p.body? .template).isNone = true → ExportsBehindTemplate passages) := by
  unfold ExportsBehindTemplate Passage.ExportsNothing scriptLines
  cases p with
  | between line => simp [Passage.body?, bodies_cons]
  | block name opening body closing =>
    cases name <;> simp [Passage.body?, bodies_cons, or_imp, forall_and]

/-! ## The slot -/

/-- Script lines with the slot, if there is none in front of them. -/
def withSlotIf (slotted : Bool) (lines : List Text) : List Line :=
  if slotted then lines.map .code else withSlot lines

/-- The slot is put in once. -/
theorem withSlotIf_append (slotted : Bool) (lines more : List Text) :
    withSlotIf slotted (lines ++ more) =
      withSlotIf slotted lines ++ withSlotIf (slotted || lines.any exports) more := by
  cases slotted with
  | true => exact List.map_append
  | false =>
    induction lines with
    | nil => rfl
    | cons line lines ih =>
      cases hline : exports line with
      | true => simp [withSlotIf, withSlot, hline]
      | false => simpa [withSlotIf, withSlot, hline] using ih

end Component

end ScriptBundle
