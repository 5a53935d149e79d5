/-
# Counting occurrences

A text that is looked for stands only where its first character does.  So it does not begin in the blanks
around a line, nor in any other text without this character.

## Main content

- `Text.occurrences_cons` counts along a text.
- `Text.occurrences_append_of_not_mem` passes over characters with which no occurrence begins.
- `Text.exists_trim` puts the blanks around a text back.
-/
import ScriptBundle.Text.Blank

namespace ScriptBundle

namespace Text

variable {a : Char} {needle front s : Text}

/-- A text has one occurrence more if there is one at its head. -/
theorem occurrences_cons (needle : Text) (c : Char) (s : Text) :
    occurrences needle (c :: s) =
      occurrences needle s + if needle.isPrefixOf (c :: s) = true then 1 else 0 := by
  rw [occurrences, suffixes_cons, List.countP_cons, ← occurrences]

/-- No occurrence begins with a character that is not its first one. -/
theorem occurrences_append_of_not_mem (h : a ∉ front) :
    occurrences (a :: needle) (front ++ s) = occurrences (a :: needle) s := by
  induction front with
  | nil => rfl
  | cons c front ih =>
    rw [List.mem_cons, not_or] at h
    obtain ⟨hne, hfront⟩ := h
    have hprefix : (a :: needle).isPrefixOf (c :: (front ++ s)) = false := by
      simp [List.isPrefixOf, hne]
    rw [List.cons_append, occurrences_cons, hprefix, ih hfront]
    rfl

/-- A text without the first character has no occurrence. -/
theorem occurrences_eq_zero (h : a ∉ s) : occurrences (a :: needle) s = 0 := by
  have happend : occurrences (a :: needle) (s ++ []) = occurrences (a :: needle) [] :=
    occurrences_append_of_not_mem h
  rw [List.append_nil] at happend
  exact happend

/-- A text is its trimmed text with blanks around it. -/
theorem exists_trim (s : Text) :
    ∃ front back, s = front ++ (trim s ++ back) ∧ (∀ c ∈ front, isBlank c = true) ∧
      ∀ c ∈ back, isBlank c = true := by
  refine ⟨s.takeWhile isBlank, ((trimStart s).reverse.takeWhile isBlank).reverse, ?_, ?_, ?_⟩
  · have hback : trim s ++ ((trimStart s).reverse.takeWhile isBlank).reverse = trimStart s := by
      rw [trim, trimEnd, ← List.reverse_append, List.takeWhile_append_dropWhile, List.reverse_reverse]
    rw [hback, trimStart, List.takeWhile_append_dropWhile]
  · exact List.all_eq_true.1 List.all_takeWhile
  · exact fun c hc => List.all_eq_true.1 List.all_takeWhile c (List.mem_reverse.1 hc)

end Text

end ScriptBundle
