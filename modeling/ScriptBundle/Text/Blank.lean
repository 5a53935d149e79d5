/-
# Blank characters

Blank characters are those with the Unicode property `White_Space`.  This file holds their table
and the operations that cut a text at blanks.

## Main content

- `isBlank` is the membership test; `isBlank_of_isWhitespace` says that it extends the ASCII one.
- `trimStart`, `trimEnd` and `trim` drop the blanks at the ends of a text.
- `words` lists the runs of non-blank characters.
-/
import ScriptBundle.Text.Basic

namespace ScriptBundle

namespace Text

/-- The ranges of code points with the property `White_Space`, in ascending order. -/
def blankRanges : List (Nat × Nat) :=
  [(0x9, 0xD), (0x20, 0x20), (0x85, 0x85), (0xA0, 0xA0), (0x1680, 0x1680), (0x2000, 0x200A),
    (0x2028, 0x2029), (0x202F, 0x202F), (0x205F, 0x205F), (0x3000, 0x3000)]

/-- Whether a character is blank. -/
def isBlank (c : Char) : Bool :=
  blankRanges.any fun range => range.1 ≤ c.toNat && c.toNat ≤ range.2

/-- The ASCII blanks are blank. -/
theorem isBlank_of_isWhitespace {c : Char} (h : c.isWhitespace) : isBlank c := by
  simp only [Char.isWhitespace, Bool.or_eq_true, decide_eq_true_eq] at h
  rcases h with ((h | h) | h) | h <;> subst h <;> decide

/-- The text without the blanks at its start. -/
def trimStart (s : Text) : Text := s.dropWhile isBlank

/-- The text without the blanks at its end. -/
def trimEnd (s : Text) : Text := (s.reverse.dropWhile isBlank).reverse

/-- The text without the blanks at either end. -/
def trim (s : Text) : Text := trimEnd (trimStart s)

/-- The words of a text: its longest runs of characters that are not blank. -/
def words (s : Text) : List Text := (splitWith isBlank s).filter (· ≠ [])

end Text

end ScriptBundle
