/-
# Reading string literals

A script reads a string literal up to the first quote that is not escaped.  Reading what `escape`
writes gives the text back, whatever stands behind the closing quote, so a literal shows where it ends
and which text it stands for.

## Main content

- `Literal.read?` reads a literal behind its opening quote.
- `Literal.read?_escape`: reading the literal of a text gives the text.
- `Literal.quote_append_inj`: a literal shows where it ends.
- `Literal.lineBreak_not_mem_escape`: inside a literal there is no line break.
- `Literal.exported?` reads a script that exports a text.
-/
import Mathlib.Data.List.Basic
import Mathlib.Tactic.SplitIfs
import ScriptBundle.Json
import ScriptBundle.Markup.Literal

namespace ScriptBundle

namespace Literal

/-! ## A reader -/

/-- The character of an escape with one letter. -/
def unescape? : Char → Option Char
  | '\\' => some '\\'
  | '"' => some '"'
  | 'n' => some '\n'
  | 'r' => some '\r'
  | _ => none

/-- The character of an escape with four hexadecimal digits.  The halves of surrogate pairs are no
characters. -/
def character? (a b c d : Char) : Option Char :=
  match Json.hexValue? a b c d with
  | some code => if code.isValidChar then some (Char.ofNat code) else none
  | none => none

/-- Reads a literal behind its opening quote: the text that it stands for, and what follows on its
closing quote.  A literal has no line break in it. -/
def read? : Text → Option (Text × Text)
  | [] => none
  | '"' :: rest => some ([], rest)
  | '\\' :: 'u' :: a :: b :: c :: d :: rest =>
    match character? a b c d with
    | some found => (read? rest).map fun (s, behind) => (found :: s, behind)
    | none => none
  | '\\' :: c :: rest =>
    match unescape? c with
    | some found => (read? rest).map fun (s, behind) => (found :: s, behind)
    | none => none
  | c :: rest =>
    if c = '\\' ∨ c = '\n' ∨ c = '\r' then none
    else (read? rest).map fun (s, behind) => (c :: s, behind)

/-! ## Reading what is written -/

/-- A character that stands for itself is read as itself. -/
theorem read?_cons {c : Char} (hquote : c ≠ '"') (hbackslash : c ≠ '\\') (hnewline : c ≠ '\n')
    (hreturn : c ≠ '\r') (rest : Text) :
    read? (c :: rest) = (read? rest).map fun (s, behind) => (c :: s, behind) := by
  rw [read?]
  · rw [if_neg]
    rintro (h | h | h)
    · exact hbackslash h
    · exact hnewline h
    · exact hreturn h
  all_goals grind

/-- What is written for a character is read as this character. -/
theorem read?_escapeChar (c : Char) (rest : Text) :
    read? (escapeChar c ++ rest) = (read? rest).map fun (s, behind) => (c :: s, behind) := by
  unfold escapeChar
  split_ifs with hbackslash hquote hnewline hreturn hline hparagraph
  case neg => exact read?_cons hquote hbackslash hnewline hreturn rest
  -- every escape is read back by a computation
  all_goals
    subst c
    rfl

/-- Reading the literal of a text gives the text, and leaves what follows on the closing quote. -/
theorem read?_escape (s rest : Text) : read? (escape s ++ '"' :: rest) = some (s, rest) := by
  induction s with
  | nil => rfl
  | cons c s ih =>
    rw [escape_cons, List.append_assoc, read?_escapeChar, ih]
    rfl

/-- A literal shows where it ends and which text it stands for. -/
theorem quote_append_inj {s t rest rest' : Text} (h : quote s ++ rest = quote t ++ rest') :
    s = t ∧ rest = rest' := by
  have hinside : escape s ++ '"' :: rest = escape t ++ '"' :: rest' := by
    simpa [quote] using h
  have hread := congrArg read? hinside
  rw [read?_escape, read?_escape] at hread
  cases hread
  exact ⟨rfl, rfl⟩

/-- Different texts are written differently. -/
theorem escape_injective : Function.Injective escape := by
  intro s t h
  have hread := congrArg (fun inside => read? (inside ++ ['"'])) h
  rw [read?_escape, read?_escape] at hread
  exact (Prod.ext_iff.1 (Option.some.inj hread)).1

/-! ## Line breaks -/

/-- The characters that break lines in scripts. -/
def lineBreaks : List Char := ['\n', '\r', '\u2028', '\u2029']

/-- No character is written with a line break. -/
theorem lineBreak_not_mem_escapeChar {b : Char} (h : b ∈ lineBreaks) (c : Char) :
    b ∉ escapeChar c := by
  unfold escapeChar
  split_ifs with hbackslash hquote hnewline hreturn hline hparagraph
  case neg =>
    -- a character without an escape is no line break
    have hc : c ∉ lineBreaks := by simp [lineBreaks, hnewline, hreturn, hline, hparagraph]
    exact fun hmem => hc (List.mem_singleton.1 hmem ▸ h)
  all_goals
    rw [lineBreaks] at h
    simp only [List.mem_cons, List.not_mem_nil, or_false] at h
    rcases h with rfl | rfl | rfl | rfl <;> decide

/-- Inside a literal there is no line break. -/
theorem lineBreak_not_mem_escape {b : Char} (h : b ∈ lineBreaks) (s : Text) : b ∉ escape s := by
  intro hmem
  obtain ⟨c, -, hc⟩ := List.mem_flatMap.1 hmem
  exact lineBreak_not_mem_escapeChar h c hc

/-! ## Scripts that export texts -/

/-- Reads a script that exports a string literal and does nothing else: the text that it exports. -/
def exported? (script : Text) : Option Text :=
  match script.dropPrefix? "module.exports = \"".toList with
  | none => none
  | some inside =>
    match read? inside with
    | some (s, [';', '\n']) => some s
    | _ => none

/-- The script that exports a text is read as such. -/
theorem exported?_exportText (s : Text) : exported? (exportText s) = some s := by
  have hbegins : "module.exports = ".toList ++ ['"'] = "module.exports = \"".toList := rfl
  have hscript : exportText s =
      ("module.exports = ".toList ++ ['"']) ++ (escape s ++ '"' :: [';', '\n']) := by
    unfold exportText quote
    generalize "module.exports = ".toList = front
    simp
  rw [exported?, hscript, hbegins, List.dropPrefix?_append_of_beq _ BEq.rfl]
  simp only [read?_escape]

end Literal

end ScriptBundle
