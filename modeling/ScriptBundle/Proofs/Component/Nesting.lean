/-
# Nested templates

A template should end at the closing tag that belongs to its opening tag.  In between, other templates may
be opened and closed, and every one that is opened is closed.  The depth that is counted in a template
goes up wherever an opening tag seems to begin, so also at an element whose name only begins like that of
a template, and at a template that closes itself.  Every such tag keeps the template open for one closing
tag more.

## Main content

- `Component.opensTemplate` says which tags open a template; `Component.openings` and
  `Component.lookAlikes` count those that do and those that only seem to.
- `Component.Nests` says that lines are well nested.
- `Component.OpenBlock.keeps_of_nests`: well-nested lines do not end a template, and what the depth is
  behind them.
- `Component.nested_template`: a template with a well-nested body ends at the line behind it exactly if
  there is no look-alike in the body.
-/
import ScriptBundle.Proofs.Component.Cutting
import ScriptBundle.Proofs.Text.Occurrences

namespace ScriptBundle

namespace Component

/-! ## Tags of templates -/

/-- The name of an element is complete in front of a text: the tag ends there, or a blank follows. -/
def completesName (behind : Text) : Bool :=
  behind.head?.any fun c => c = '>' || Text.isBlank c

/-- Whether a tag closes itself, from the text behind its name: there is a slash directly in front of the
first `>` that is not quoted. -/
def closesItself (quote : Option Char) (slash : Bool) : Text → Bool
  | [] => false
  | c :: behind =>
    match quote with
    | some q => closesItself (if c = q then none else some q) false behind
    | none =>
      if c = '>' then slash
      else closesItself (if isQuote c then some c else none) (c = '/') behind

/-- Whether a tag opens a template, from the text behind the name in it. -/
def opensTemplate (behind : Text) : Bool := completesName behind && !closesItself none false behind

/-- How a template's opening tag begins. -/
abbrev templateTag : Text := openTag TagName.template.text

/-- The tag at the head of an end of a line opens a template, where the line is followed by a text. -/
def opensAt (behind ending : Text) : Bool := opensTemplate (ending.drop templateTag.length ++ behind)

/-- The number of tags in a line that open a template. -/
def openings (line behind : Text) : Nat :=
  (Text.suffixes line).countP fun ending => templateTag.isPrefixOf ending && opensAt behind ending

/-- The number of tags in a line that only begin like one that opens a template. -/
def lookAlikes (line behind : Text) : Nat :=
  (Text.suffixes line).countP fun ending => templateTag.isPrefixOf ending && !opensAt behind ending

/-- The number of tags in a line that close a template. -/
def closings (line : Text) : Nat := Text.occurrences (closeTag TagName.template.text) line

/-- Lines are well nested from a depth on: no line has more closing tags than there are templates open, and
behind all lines none is. -/
def Nests (depth : Nat) : List Text → Prop
  | [] => depth = 0
  | line :: lines =>
    closings line ≤ depth + openings line lines.flatten ∧
      Nests (depth + openings line lines.flatten - closings line) lines

/-- The number of look-alikes in lines. -/
def totalLookAlikes : List Text → Nat
  | [] => 0
  | line :: lines => lookAlikes line lines.flatten + totalLookAlikes lines

instance decidableNests : (depth : Nat) → (lines : List Text) → Decidable (Nests depth lines)
  | depth, [] => inferInstanceAs (Decidable (depth = 0))
  | depth, line :: lines =>
    have := decidableNests (depth + openings line lines.flatten - closings line) lines
    inferInstanceAs (Decidable (_ ∧ _))

variable {line closing behind text : Text} {body : List Text} {n : Nat}

/-- Every place where the tag begins is an opening tag or a look-alike. -/
theorem openings_add_lookAlikes (line behind : Text) :
    openings line behind + lookAlikes line behind = Text.occurrences templateTag line := by
  unfold openings lookAlikes Text.occurrences
  induction Text.suffixes line with
  | nil => rfl
  | cons ending endings ih =>
    simp only [List.countP_cons]
    cases templateTag.isPrefixOf ending <;> cases opensAt behind ending <;> simp <;> omega

/-- The closing tag of a template opens none, and closes one. -/
theorem ClosesBlock.counts (h : ClosesBlock .template line) :
    Text.occurrences templateTag line = 0 ∧ closings line = 1 := by
  obtain ⟨front, back, hline, hfront, hback⟩ := Text.exists_trim line
  rw [h] at hline
  have hblank : Text.isBlank '<' = false := by decide
  have hnone {s : Text} (hs : ∀ c ∈ s, Text.isBlank c = true) : '<' ∉ s := fun hmem => by
    rw [hs _ hmem] at hblank
    cases hblank
  -- there is one tag in the line, and it goes on with a slash
  have hrest : '<' ∉ '/' :: (TagName.template.text ++ '>' :: back) := by
    simp only [List.mem_cons, List.mem_append, not_or]
    exact ⟨by decide, by decide, by decide, hnone hback⟩
  have hcount (needle : Text) : Text.occurrences ('<' :: needle) line =
      if needle.isPrefixOf ('/' :: (TagName.template.text ++ '>' :: back)) then 1 else 0 := by
    rw [hline, Text.occurrences_append_of_not_mem (hnone hfront), closeTag, List.append_assoc,
      List.append_assoc, List.cons_append, List.cons_append, List.nil_append, List.singleton_append,
      Text.occurrences_cons, Text.occurrences_eq_zero hrest, Nat.zero_add]
    rfl
  refine ⟨hcount _, (hcount _).trans (if_pos ?_)⟩
  rw [List.isPrefixOf_iff_prefix]
  exact ⟨back, by simp⟩

/-- Behind a line of well-nested lines the depth counts the templates that are open, and the look-alikes
so far. -/
theorem depthAfter_of_nests (k : Nat) (h : closings line ≤ n + openings line behind) :
    depthAfter (1 + n + k) line =
      1 + (n + openings line behind - closings line) + (k + lookAlikes line behind) := by
  have hopens := openings_add_lookAlikes line behind
  have hdepth : depthAfter (1 + n + k) line =
      max 1 (1 + n + k + Text.occurrences templateTag line - closings line) := rfl
  omega

/-- Well-nested lines do not end a template, and behind them the depth counts the look-alikes in them. -/
theorem OpenBlock.keeps_of_nests (k : Nat) (collected : List Text) (h : Nests n body) :
    (OpenBlock.template (1 + n + k) collected).Keeps body ∧
      body.foldl collect (.template (1 + n + k) collected) =
        .template (1 + (k + totalLookAlikes body)) ((body.map Text.withNewline).reverse ++ collected) := by
  induction body generalizing n k collected with
  | nil =>
    obtain rfl : n = 0 := h
    exact ⟨trivial, rfl⟩
  | cons line body ih =>
    obtain ⟨hline, hrest⟩ := h
    have hcollect : (OpenBlock.template (1 + n + k) collected).collect line =
        .template (1 + (n + openings line body.flatten - closings line) +
          (k + lookAlikes line body.flatten)) (Text.withNewline line :: collected) := by
      rw [collect, depthAfter_of_nests k hline]
    obtain ⟨hkeeps, hfold⟩ := ih _ _ hrest
    refine ⟨⟨?_, ?_⟩, ?_⟩
    · -- a closing tag closes a template that is open, so the depth is more than one
      rintro ⟨hcloses, hdepth⟩
      obtain ⟨hnone, hone⟩ := hcloses.counts
      have hopens := openings_add_lookAlikes line body.flatten
      omega
    · rw [hcollect]
      exact hkeeps
    · rw [List.foldl_cons, hcollect, hfold, totalLookAlikes, Nat.add_assoc k]
      simp

/-! ## Where a template ends -/

namespace Draft

variable {d next : Draft} {lines rest : List Text}

/-- Lines that are read without a defect only change the draft. -/
theorem read_append_of_foldlM (h : lines.foldlM step d = .ok next) (rest : List Text) :
    d.read (lines ++ rest) = next.read rest := by
  induction lines generalizing d with
  | nil => exact congrArg (read · rest) (Except.ok.inj h)
  | cons line lines ih =>
    rw [List.foldlM_cons] at h
    cases hstep : d.step line with
    | error defect =>
      rw [hstep] at h
      cases h
    | ok behind =>
      rw [hstep] at h
      rw [List.cons_append, read_cons_of_ok hstep, ih h]

/-- A closing tag ends a template, or closes a nested one. -/
theorem step_closing (d : Draft) (k : Nat) (collected : List Text) (h : ClosesBlock .template line) :
    step { d with pending := some (.template (1 + k) collected) } line =
      if k = 0 then .ok { d with template := some (bodyText collected), pending := none }
      else .ok { d with pending := some (.template k (Text.withNewline line :: collected)) } := by
  have hends : (OpenBlock.template (1 + k) collected).Ends line ↔ k = 0 := by
    simp [OpenBlock.Ends, h]
  split
  case isTrue hzero => exact step_of_ends rfl (hends.2 hzero)
  case isFalse hpos =>
    obtain ⟨hopening, hclosing⟩ := h.counts
    have hdepth : depthAfter (1 + k) line =
        max 1 (1 + k + Text.occurrences templateTag line - closings line) := rfl
    have hk : depthAfter (1 + k) line = k := by omega
    rw [step_of_not_ends rfl fun hend => hpos (hends.1 hend), OpenBlock.collect, hk]

end Draft

/-- In a file in which a template with a well-nested body stands between blocks, no line of the body ends the
template.  If there is no look-alike in the body, the line behind it ends the template, and the markup is
the body.  Otherwise this line is taken into the template, which stays open for as many closing tags as
there are look-alikes. -/
theorem nested_template {front rest : List Text} {opening : Text} {d : Draft}
    (hlines : Text.lines text = front ++ opening :: (body ++ closing :: rest))
    (hfront : front.foldlM Draft.step {} = .ok d) (hpending : d.pending = none)
    (hopens : OpensBlock .template opening) (hbody : Nests 0 body)
    (hcloses : ClosesBlock .template closing) :
    (OpenBlock.start .template).Keeps body ∧
      takeApart text =
        if totalLookAlikes body = 0 then { d with template := some body.flatten }.read rest
        else
          { d with
            pending := some
              (.template (totalLookAlikes body) (Text.withNewline closing :: body.reverse)) }.read
            rest := by
  obtain ⟨hkeeps, hfold⟩ := OpenBlock.keeps_of_nests 0 [] hbody
  -- the line behind the body follows, so all lines of the body have their newlines
  have hwhole : body.map Text.withNewline = body := by
    refine (List.map_congr_left fun line hline => if_pos ?_).trans (List.map_id body)
    obtain ⟨before, after, rfl⟩ := List.append_of_mem hline
    have hsplit : Text.lines text = (front ++ opening :: before) ++ line :: (after ++ closing :: rest) := by
      simp [hlines]
    exact Text.getLast?_of_lines hsplit (by simp)
  rw [hwhole, List.append_nil, Nat.zero_add] at hfold
  have hopening : d.step opening = .ok { d with pending := some (.start .template) } :=
    Draft.step_opening hpending hopens nofun
  have hclosing : takeApart text =
      { d with pending := some (.template (1 + totalLookAlikes body) body.reverse) }.read
        (closing :: rest) := by
    rw [takeApart, hlines, Draft.read_append_of_foldlM hfront, Draft.read_cons_of_ok hopening,
      Draft.read_keeps rfl hkeeps]
    exact congrArg (fun opened => Draft.read { d with pending := some opened } _) hfold
  have hstep := Draft.step_closing d (totalLookAlikes body) body.reverse hcloses
  refine ⟨hkeeps, hclosing.trans ?_⟩
  split at hstep
  case isTrue hnone =>
    rw [if_pos hnone, Draft.read_cons_of_ok hstep, Draft.bodyText, List.reverse_reverse, hpending]
  case isFalse hsome => rw [if_neg hsome, Draft.read_cons_of_ok hstep]

/-- The lines behind the body of the template in a component file. -/
def behindBody : List Text :=
  ["<script>\n".toList, "module.exports = \x7b\n".toList, "\x7d;\n".toList, "</script>\n".toList]

/-- A component file with the given body of its template. -/
def templateFile (body : List Text) : Text :=
  ("<template>\n".toList :: (body ++ "</template>\n".toList :: behindBody)).flatten

/-- Lines with a template, and with a template that closes itself only if quotes are not passed over. -/
def nestedBody : List Text :=
  ["<template v-if=\"a/>b\">\n".toList, "<p>a</p></template>\n".toList]

/-- A line with an element whose name begins like that of a template. -/
def listBody : List Text := ["<template-list></template-list>\n".toList]

/-- The file with the nested template is read as it is meant. -/
theorem takeApart_nestedBody :
    Text.lines (templateFile nestedBody) =
        [] ++ "<template>\n".toList :: (nestedBody ++ "</template>\n".toList :: behindBody) ∧
      Nests 0 nestedBody ∧ totalLookAlikes nestedBody = 0 ∧
      (takeApart (templateFile nestedBody)).rest = .ok
        { template := some nestedBody.flatten
          script := [.code "module.exports = \x7b\n".toList, .slot, .code "\x7d;\n".toList] } := by
  have hlines : Text.lines (templateFile nestedBody) =
      [] ++ "<template>\n".toList :: (nestedBody ++ "</template>\n".toList :: behindBody) := by
    decide +kernel
  have hbody : Nests 0 nestedBody := by decide +kernel
  have hnone : totalLookAlikes nestedBody = 0 := by decide +kernel
  obtain ⟨-, hparts⟩ := nested_template hlines rfl rfl (by decide +kernel) hbody (by decide +kernel)
  refine ⟨hlines, hbody, hnone, ?_⟩
  rw [hparts, if_pos hnone]
  rfl

/-- An element whose name begins like that of a template keeps the template open, up to the end of the
file. -/
theorem takeApart_listBody :
    Text.lines (templateFile listBody) =
        "<template>\n".toList :: (listBody ++ "</template>\n".toList :: behindBody) ∧
      OpensBlock .template "<template>\n".toList ∧ Nests 0 listBody ∧
      ClosesBlock .template "</template>\n".toList ∧
      (takeApart (templateFile listBody)).rest = .error (.unterminated .template) := by
  refine ⟨?_, ?_, ?_, ?_, rfl⟩ <;> decide +kernel

end Component

end ScriptBundle
