/-
# Sections of component files

A component file is cut into sections: style blocks and templates, each from its opening tag to the line
that ends it, and the lines between them.  There is one way only to cut it.  The tags of a script stand on
lines between blocks, so a script may be interrupted by style blocks and templates, and goes on behind
them.

## Main content

- `Component.OpenBlock.Keeps` and `Component.OpenBlock.Takes` say which lines make up the body of a block,
  and which line ends it.
- `Component.Section` is a block or a line between blocks, and `Component.Section.IsRead` says that it is
  read as such.
- `Component.Cut` says which sections a file has; `Component.Cut.unique`: there are no others.
- `Component.texts` are the texts of blocks, and `Component.codeFrom` the lines of the script.
-/
import ScriptBundle.Proofs.Component.Passage

namespace ScriptBundle

namespace Component

variable {line closing : Text} {body : List Text}

/-! ## Bodies of blocks -/

/-- The name in the tags of a block. -/
def Block.tagName : Block → TagName
  | .style => .style
  | .template => .template

instance {P : Block → Prop} [DecidablePred P] : Decidable (∀ block, P block) :=
  decidable_of_iff (P .style ∧ P .template)
    ⟨fun ⟨hstyle, htemplate⟩ block => by cases block <;> assumption, fun h => ⟨h _, h _⟩⟩

namespace OpenBlock

/-- A block behind its opening tag. -/
def start : Block → OpenBlock
  | .style => .style []
  | .template => .template 1 []

/-- A line ends an open block: it is the closing tag of the block, and not that of a nested template. -/
def Ends (line : Text) : OpenBlock → Prop
  | .style _ => ClosesBlock .style line
  | .template depth _ => ClosesBlock .template line ∧ depth = 1

/-- An open block with one more line. -/
def collect (opened : OpenBlock) (line : Text) : OpenBlock :=
  match opened with
  | .style body => .style (Text.withNewline line :: body)
  | .template depth body => .template (depthAfter depth line) (Text.withNewline line :: body)

/-- The lines that an open block has so far, the last one first. -/
def collected : OpenBlock → List Text
  | .style body => body
  | .template _ body => body

/-- None of the lines of a body ends an open block. -/
def Keeps : OpenBlock → List Text → Prop
  | _, [] => True
  | opened, line :: body => ¬ opened.Ends line ∧ (opened.collect line).Keeps body

/-- An open block takes the lines of a body in, and the line behind them ends it. -/
def Takes (opened : OpenBlock) (body : List Text) (closing : Text) : Prop :=
  opened.Keeps body ∧ (body.foldl collect opened).Ends closing

instance (opened : OpenBlock) : Decidable (opened.Ends line) :=
  match opened with
  | .style _ => inferInstanceAs (Decidable (ClosesBlock .style line))
  | .template _ _ => inferInstanceAs (Decidable (_ ∧ _))

instance decidableKeeps : (opened : OpenBlock) → (body : List Text) → Decidable (opened.Keeps body)
  | _, [] => isTrue trivial
  | opened, line :: body =>
    have := decidableKeeps (opened.collect line) body
    inferInstanceAs (Decidable (_ ∧ _))

instance (opened : OpenBlock) : Decidable (opened.Takes body closing) :=
  inferInstanceAs (Decidable (_ ∧ _))

variable {opened : OpenBlock}

@[simp] theorem block_collect : (opened.collect line).block = opened.block := by
  cases opened <;> rfl

@[simp] theorem collected_collect :
    (opened.collect line).collected = Text.withNewline line :: opened.collected := by
  cases opened <;> rfl

@[simp] theorem block_start (block : Block) : (start block).block = block := by
  cases block <;> rfl

@[simp] theorem collected_start (block : Block) : (start block).collected = [] := by
  cases block <;> rfl

/-- A body belongs to its block. -/
theorem block_foldl_collect : (body.foldl collect opened).block = opened.block := by
  induction body generalizing opened with
  | nil => rfl
  | cons line body ih => rw [List.foldl_cons, ih, block_collect]

/-- A body is collected line by line. -/
theorem collected_foldl_collect : (body.foldl collect opened).collected =
    (body.map Text.withNewline).reverse ++ opened.collected := by
  induction body generalizing opened with
  | nil => rfl
  | cons line body ih => simp [ih]

/-- The line that ends a block is the first one that does, so the body is known from the lines. -/
theorem Takes.unique {other : Text} {otherBody rest otherRest : List Text}
    (h : opened.Takes body closing) (hother : opened.Takes otherBody other)
    (heq : body ++ closing :: rest = otherBody ++ other :: otherRest) :
    body = otherBody ∧ closing = other ∧ rest = otherRest := by
  induction body generalizing opened otherBody with
  | nil =>
    cases otherBody with
    | nil =>
      obtain ⟨rfl, rfl⟩ := List.cons.inj heq
      exact ⟨rfl, rfl, rfl⟩
    | cons line otherBody =>
      obtain ⟨rfl, -⟩ := List.cons.inj heq
      exact absurd h.2 hother.1.1
  | cons line body ih =>
    cases otherBody with
    | nil =>
      obtain ⟨rfl, -⟩ := List.cons.inj heq
      exact absurd hother.2 h.1.1
    | cons otherLine otherBody =>
      obtain ⟨rfl, hrest⟩ := List.cons.inj heq
      obtain ⟨rfl, hclosing, hbehind⟩ := ih ⟨h.1.2, h.2⟩ ⟨hother.1.2, hother.2⟩ hrest
      exact ⟨rfl, hclosing, hbehind⟩

end OpenBlock

/-! ## Sections -/

/-- What a component file is cut into. -/
inductive Section where
  /-- A line outside of style blocks and templates. -/
  | between (line : Text)
  /-- A style block or a template: the line with its opening tag, the lines of its body, and the line that
  ends it. -/
  | region (block : Block) (opening : Text) (body : List Text) (closing : Text)
  deriving DecidableEq

namespace Section

/-- The lines of a section. -/
def lines : Section → List Text
  | between line => [line]
  | region _ opening body closing => opening :: (body ++ [closing])

/-- A section is read as such.  A line between blocks opens none, whatever else it is.  A block has its
opening tag, ends at the line behind its body and nowhere before, and other lines follow those of the
body. -/
def IsRead : Section → Prop
  | between line => ∀ block : Block, ¬ OpensBlock block.tagName line
  | region block opening body closing =>
    OpensBlock block.tagName opening ∧
      (block = .style → Text.occurs "scoped".toList (Text.trim opening) = false) ∧
      (OpenBlock.start block).Takes body closing ∧ ∀ line ∈ body, line.getLast? = some '\n'

instance : DecidablePred IsRead
  | between _ => inferInstanceAs (Decidable (∀ block : Block, ¬ OpensBlock block.tagName _))
  | region _ _ _ _ => inferInstanceAs (Decidable (_ ∧ (_ → _) ∧ _ ∧ _))

/-- The text of a block of this kind. -/
def text? (block : Block) : Section → Option Text
  | between _ => none
  | region other _ body _ => if other = block then some body.flatten else none

/-- Sections are known from their lines. -/
theorem unique {sections others : List Section} (h : ∀ s ∈ sections, s.IsRead)
    (hothers : ∀ s ∈ others, s.IsRead) (heq : sections.flatMap lines = others.flatMap lines) :
    sections = others := by
  induction sections generalizing others with
  | nil =>
    cases others with
    | nil => rfl
    | cons other others => cases other <;> simp [lines] at heq
  | cons s sections ih =>
    obtain ⟨hs, hsections⟩ := List.forall_mem_cons.1 h
    cases others with
    | nil => cases s <;> simp [lines] at heq
    | cons other others =>
      obtain ⟨hother, hrests⟩ := List.forall_mem_cons.1 hothers
      cases s with
      | between line =>
        cases other with
        | between otherLine =>
          obtain ⟨rfl, hrest⟩ := List.cons.inj heq
          rw [ih hsections hrests hrest]
        | region block opening body closing =>
          obtain ⟨rfl, -⟩ := List.cons.inj heq
          exact absurd hother.1 (hs block)
      | region block opening body closing =>
        cases other with
        | between otherLine =>
          obtain ⟨rfl, -⟩ := List.cons.inj heq
          exact absurd hs.1 (hother block)
        | region otherBlock otherOpening otherBody otherClosing =>
          obtain ⟨hopens, -, htakes, -⟩ := hs
          obtain ⟨hotherOpens, -, hotherTakes, -⟩ := hother
          simp only [List.flatMap_cons, lines, List.cons_append, List.append_assoc,
            List.nil_append, List.cons.injEq] at heq
          obtain ⟨rfl, hrest⟩ := heq
          obtain rfl : block = otherBlock := by
            have hname := hopens.unique hotherOpens
            cases block <;> cases otherBlock <;> first | rfl | cases hname
          obtain ⟨rfl, rfl, hbehind⟩ := htakes.unique hotherTakes hrest
          rw [ih hsections hrests hbehind]

end Section

/-- Sections that lines are cut into. -/
structure Cut (lines : List Text) (sections : List Section) : Prop where
  /-- The sections make up the lines. -/
  lines_eq : sections.flatMap Section.lines = lines
  /-- They are read as sections. -/
  isRead : ∀ s ∈ sections, s.IsRead

/-- There is one way only to cut lines. -/
theorem Cut.unique {lines : List Text} {sections others : List Section} (h : Cut lines sections)
    (hother : Cut lines others) : sections = others :=
  Section.unique h.isRead hother.isRead (h.lines_eq.trans hother.lines_eq.symm)

/-- The region behind a line outside of style blocks and templates. -/
def regionBehind (region : Region) (line : Text) : Region :=
  if OpensBlock .script line then .script else if ClosesBlock .script line then .outside else region

/-- The script line that a line outside of style blocks and templates is, if it is one. -/
def scriptLine? (region : Region) (line : Text) : Option Text :=
  if OpensBlock .script line ∨ ClosesBlock .script line ∨ region = .outside then none else some line

/-- A script line is a line of the file that stands in a script and is no tag of one. -/
theorem scriptLine?_eq_some_iff {region : Region} {code : Text} :
    scriptLine? region line = some code ↔
      line = code ∧ region = .script ∧ ¬ OpensBlock .script line ∧ ¬ ClosesBlock .script line := by
  unfold scriptLine?
  cases region <;> simp [and_comm]

/-- Outside of scripts there are no script lines. -/
theorem scriptLine?_outside (line : Text) : scriptLine? .outside line = none :=
  if_pos (.inr (.inr rfl))

/-- Behind a script line the script goes on. -/
theorem regionBehind_of_scriptLine? {region : Region} {code : Text}
    (h : scriptLine? region line = some code) : regionBehind region line = .script := by
  obtain ⟨-, hregion, hopens, hcloses⟩ := scriptLine?_eq_some_iff.1 h
  rw [regionBehind, if_neg hopens, if_neg hcloses, hregion]

/-- The lines of the script in sections, of which the first one stands in a region. -/
def codeFrom (region : Region) : List Section → List Text
  | [] => []
  | .between line :: sections =>
    (scriptLine? region line).toList ++ codeFrom (regionBehind region line) sections
  | .region _ _ _ _ :: sections => codeFrom region sections

/-- The region behind sections, of which the first one stands in a region. -/
def regionAfter (region : Region) : List Section → Region
  | [] => region
  | .between line :: sections => regionAfter (regionBehind region line) sections
  | .region _ _ _ _ :: sections => regionAfter region sections

/-- The script goes on where sections are left. -/
theorem codeFrom_append (region : Region) (front back : List Section) :
    codeFrom region (front ++ back) =
      codeFrom region front ++ codeFrom (regionAfter region front) back := by
  induction front generalizing region with
  | nil => rfl
  | cons s front ih =>
    cases s with
    | between line => simp only [List.cons_append, codeFrom, regionAfter, ih, List.append_assoc]
    | region block opening body closing => exact ih region

/-- The texts of the blocks of one kind, in file order. -/
def texts (block : Block) (sections : List Section) : List Text :=
  sections.filterMap (Section.text? block)

/-- The texts of two lists of sections come one after the other. -/
theorem texts_append (block : Block) (front back : List Section) :
    texts block (front ++ back) = texts block front ++ texts block back :=
  List.filterMap_append

/-- The text of a section comes in front of those behind it. -/
theorem texts_cons (block : Block) (s : Section) (sections : List Section) :
    texts block (s :: sections) = (s.text? block).toList ++ texts block sections := by
  unfold texts
  cases htext : s.text? block with
  | none => rw [List.filterMap_cons_none htext, Option.toList_none, List.nil_append]
  | some text => rw [List.filterMap_cons_some htext, Option.toList_some, List.singleton_append]

end Component

end ScriptBundle
