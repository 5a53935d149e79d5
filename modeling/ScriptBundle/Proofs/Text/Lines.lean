/-
# Lines of texts

A text is cut behind every newline, so all of its lines but the last one have a newline at their ends,
and lines that have theirs are the lines of the text that they make up.

## Main content

- `Text.IsLine` says that a text is one line with its newline, and `Text.lines_flatten` that such lines
  come back when they are put together.
- `Text.lines_split` takes the last line off; `Text.getLast?_of_lines` says that a line which others
  follow has its newline.
- `Text.lines_without` takes a line out of a text.
- `Text.LineAt` says which line stands at an offset.
-/
import ScriptBundle.Text.Basic

namespace ScriptBundle

namespace Text

variable {s line : Text} {ls front back : List Text}

/-! ## Lines with their newlines -/

/-- A text is one line with its newline: the newline at its end is the only one. -/
def IsLine (line : Text) : Prop := ∃ body, line = body ++ ['\n'] ∧ '\n' ∉ body

/-- A text is one line if its last character is its only newline. -/
theorem isLine_iff : IsLine line ↔ line.getLast? = some '\n' ∧ '\n' ∉ line.dropLast := by
  constructor
  · rintro ⟨body, rfl, hbody⟩
    rw [List.getLast?_concat, List.dropLast_concat]
    exact ⟨rfl, hbody⟩
  · rintro ⟨hlast, hfront⟩
    obtain ⟨body, rfl⟩ := List.getLast?_eq_some_iff.1 hlast
    rw [List.dropLast_concat] at hfront
    exact ⟨body, rfl, hfront⟩

instance : DecidablePred IsLine := fun _ => decidable_of_iff _ isLine_iff.symm

/-- A line has its newline at its end. -/
theorem IsLine.getLast? (h : IsLine line) : line.getLast? = some '\n' := by
  obtain ⟨body, rfl, -⟩ := h
  exact List.getLast?_concat

/-- A line that has its newline needs none. -/
theorem IsLine.withNewline (h : IsLine line) : withNewline line = line := if_pos h.getLast?

/-- A line in front of a text is its first line. -/
theorem IsLine.lines_append (h : IsLine line) (s : Text) : lines (line ++ s) = line :: lines s := by
  obtain ⟨body, rfl, hbody⟩ := h
  induction body with
  | nil => rfl
  | cons c body ih =>
    have hc : c ≠ '\n' := fun heq => hbody (heq ▸ List.mem_cons_self ..)
    rw [List.cons_append, List.cons_append, lines_cons,
      ih fun hmem => hbody (List.mem_cons_of_mem _ hmem), consLine, if_neg hc]
    rfl

/-- Lines in front of a text are its first lines. -/
theorem lines_flatten_append (h : ∀ line ∈ ls, IsLine line) (s : Text) :
    lines (ls.flatten ++ s) = ls ++ lines s := by
  induction ls with
  | nil => rfl
  | cons line ls ih =>
    rw [List.flatten_cons, List.append_assoc, (h line (List.mem_cons_self ..)).lines_append,
      ih fun other hother => h other (List.mem_cons_of_mem _ hother), List.cons_append]

/-- Lines that are put together are the lines of the text. -/
theorem lines_flatten (h : ∀ line ∈ ls, IsLine line) : lines ls.flatten = ls := by
  have happend := lines_flatten_append h []
  rwa [List.append_nil, lines_nil, List.append_nil] at happend

/-! ## The last line -/

/-- The lines of a text have newlines at their ends, and behind them comes a last line, if it is not
empty. -/
theorem lines_split (s : Text) :
    ∃ front last, '\n' ∉ last ∧ (∀ line ∈ front, line.getLast? = some '\n') ∧
      lines s = front ++ (if last = [] then [] else [last]) ∧ s = front.flatten ++ last := by
  induction s with
  | nil => exact ⟨[], [], List.not_mem_nil, fun line h => absurd h List.not_mem_nil, rfl, rfl⟩
  | cons c s ih =>
    obtain ⟨front, last, hlast, hfront, hlines, rfl⟩ := ih
    rw [lines_cons, hlines, consLine]
    by_cases hc : c = '\n'
    · refine ⟨[c] :: front, last, hlast, ?_, by rw [if_pos hc]; rfl, rfl⟩
      intro line hline
      rcases List.mem_cons.1 hline with rfl | hrest
      · rw [hc]
        rfl
      · exact hfront line hrest
    · rw [if_neg hc]
      cases front with
      | nil =>
        -- the character joins the last line
        refine ⟨[], c :: last, ?_, fun line h => absurd h List.not_mem_nil, ?_, rfl⟩
        · exact List.not_mem_cons_of_ne_of_not_mem (Ne.symm hc) hlast
        · by_cases hnil : last = [] <;> simp [hnil]
      | cons line front =>
        refine ⟨(c :: line) :: front, last, hlast, ?_, rfl, rfl⟩
        intro other hother
        rcases List.mem_cons.1 hother with rfl | hrest
        · have hline := hfront line (List.mem_cons_self ..)
          rw [List.getLast?_cons, hline]
          rfl
        · exact hfront other (List.mem_cons_of_mem _ hrest)

/-- A line which others follow has its newline at its end. -/
theorem getLast?_of_lines (h : lines s = front ++ line :: back) (hback : back ≠ []) :
    line.getLast? = some '\n' := by
  obtain ⟨whole, last, -, hwhole, hlines, -⟩ := lines_split s
  -- it is among those in front of the last line
  have hbefore : front ++ line :: back.dropLast <+: whole := by
    have hdrop : (lines s).dropLast = front ++ line :: back.dropLast := by
      rw [h, List.dropLast_append_of_ne_nil (List.cons_ne_nil _ _),
        List.dropLast_cons_of_ne_nil hback]
    rw [← hdrop, hlines]
    split
    · rw [List.append_nil]
      exact List.dropLast_prefix whole
    · exact ⟨[], by rw [List.append_nil, List.dropLast_concat]⟩
  exact hwhole line (hbefore.subset (List.mem_append_right _ (List.mem_cons_self ..)))

/-- Only the last character of a line can be a newline. -/
theorem newline_not_mem_dropLast (h : line ∈ lines s) : '\n' ∉ line.dropLast := by
  induction s generalizing line with
  | nil => cases h
  | cons c s ih =>
    rw [lines_cons, consLine] at h
    split at h
    · rcases List.mem_cons.1 h with rfl | hrest
      · exact List.not_mem_nil
      · exact ih hrest
    · next hc =>
      cases hlines : lines s with
      | nil =>
        rw [hlines] at h
        rw [List.mem_singleton.1 h]
        exact List.not_mem_nil
      | cons first rest =>
        rw [hlines] at h ih
        rcases List.mem_cons.1 h with rfl | hrest
        · -- the first line is longer by the character, which is no newline
          rw [List.headD_cons]
          cases first with
          | nil => exact List.not_mem_nil
          | cons d first =>
            exact List.not_mem_cons_of_ne_of_not_mem (Ne.symm hc) (ih (List.mem_cons_self ..))
        · exact ih (List.mem_cons_of_mem _ hrest)

/-- Lines which others follow are whole. -/
theorem isLine_of_lines (h : lines s = front ++ back) (hback : back ≠ []) :
    ∀ line ∈ front, IsLine line := by
  intro line hline
  obtain ⟨before, after, rfl⟩ := List.append_of_mem hline
  have hsplit : lines s = before ++ line :: (after ++ back) := by
    rw [h, List.append_assoc, List.cons_append]
  refine isLine_iff.2 ⟨getLast?_of_lines hsplit (by simp [hback]), newline_not_mem_dropLast (s := s) ?_⟩
  rw [hsplit]
  exact List.mem_append_right _ (List.mem_cons_self ..)

/-- The last lines of a text are those of the text that they make up. -/
theorem lines_flatten_of_lines (h : lines s = front ++ back) : lines back.flatten = back := by
  by_cases hback : back = []
  · rw [hback]
    rfl
  · have htext : s = front.flatten ++ back.flatten := by
      rw [← flatten_lines s, h, List.flatten_append]
    rw [htext, lines_flatten_append (isLine_of_lines h hback)] at h
    exact List.append_cancel_left h

/-- A text without one of its lines has all the others. -/
theorem lines_without (h : lines s = front ++ line :: back) :
    lines (front ++ back).flatten = front ++ back := by
  have hsplit : lines s = (front ++ [line]) ++ back := by
    rw [h, List.append_assoc]
    rfl
  have hback : lines back.flatten = back := lines_flatten_of_lines hsplit
  rw [List.flatten_append, lines_flatten_append (isLine_of_lines h (List.cons_ne_nil _ _)), hback]

/-! ## Lines by their offsets -/

/-- The line that stands at an offset of a text. -/
def LineAt (s : Text) (offset : Nat) (line : Text) : Prop :=
  ∃ front back, lines s = front ++ line :: back ∧ front.flatten.length ≤ offset ∧
    offset < front.flatten.length + line.length

end Text

end ScriptBundle
