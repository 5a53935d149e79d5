/-
# How texts end

Only the last line of a text may lack a newline.  Whether this line is a comment is found out by going
through the text once: a newline starts over, and in a line the first characters that are not blank
decide.

## Main content

- `Text.EndsInComment` says that the last line of a text is a line comment that no newline ends.
- `LineState` is what is known of the line in which a text ends, and `LineState.after` goes through a
  text.
- `Text.endsInComment_iff`: the state at the end tells how a text ends.
- `LineState.after_eq_comment`: what is put behind a text ends in a comment only if one of both does.
-/
import ScriptBundle.Proofs.Text.Lines
import ScriptBundle.Require.Span

namespace ScriptBundle

/-! ## States -/

/-- What is known of the line in which a text ends. -/
inductive LineState where
  /-- It has blanks only. -/
  | blank
  /-- Behind blanks it has a slash. -/
  | slash
  /-- It is a line comment. -/
  | comment
  /-- It begins with something else. -/
  | code
  deriving DecidableEq

namespace LineState

/-- What is known behind one more character. -/
def step (state : LineState) (c : Char) : LineState :=
  if c = '\n' then .blank
  else
    match state with
    | .blank => if Text.isBlank c then .blank else if c = '/' then .slash else .code
    | .slash => if c = '/' then .comment else .code
    | .comment => .comment
    | .code => .code

/-- What is known behind a text. -/
def after (state : LineState) (s : Text) : LineState := s.foldl step state

variable {state : LineState} {c : Char} {s t : Text}

@[simp] theorem after_nil : state.after [] = state := rfl

@[simp] theorem after_cons : state.after (c :: s) = (state.step c).after s := rfl

/-- Texts are gone through one after the other. -/
theorem after_append : state.after (s ++ t) = (state.after s).after t := List.foldl_append

/-- A newline starts over. -/
@[simp] theorem step_newline : state.step '\n' = .blank := rfl

/-- Behind a newline nothing is known. -/
theorem after_of_getLast? (h : s.getLast? = some '\n') : state.after s = .blank := by
  obtain ⟨front, rfl⟩ := List.getLast?_eq_some_iff.1 h
  rw [after_append]
  rfl

/-- In a comment, what follows belongs to it up to the next newline. -/
theorem comment_after (h : '\n' ∉ s) : comment.after s = .comment := by
  induction s with
  | nil => rfl
  | cons c s ih =>
    have hc : c ≠ '\n' := fun heq => h (heq ▸ List.mem_cons_self ..)
    rw [after_cons, step, if_neg hc]
    exact ih fun hmem => h (List.mem_cons_of_mem _ hmem)

/-- A line that begins with something else is no comment. -/
theorem code_after (h : '\n' ∉ s) : code.after s = .code := by
  induction s with
  | nil => rfl
  | cons c s ih =>
    have hc : c ≠ '\n' := fun heq => h (heq ▸ List.mem_cons_self ..)
    rw [after_cons, step, if_neg hc]
    exact ih fun hmem => h (List.mem_cons_of_mem _ hmem)

/-- If a text has a newline, it does not matter where it begins. -/
theorem after_eq_of_mem (h : '\n' ∈ s) (state state' : LineState) :
    state.after s = state'.after s := by
  induction s generalizing state state' with
  | nil => cases h
  | cons c s ih =>
    by_cases hc : c = '\n'
    · rw [hc, after_cons, after_cons, step_newline, step_newline]
    · exact ih ((List.mem_cons.1 h).resolve_left (Ne.symm hc)) _ _

/-- A text ends in a comment only if it begins in one, behind a slash, or ends in one by itself. -/
theorem after_eq_comment (hslash : state ≠ .slash) (h : state.after s = .comment) :
    state = .comment ∨ blank.after s = .comment := by
  cases state with
  | blank => exact .inr h
  | slash => exact absurd rfl hslash
  | comment => exact .inl rfl
  | code =>
    by_cases hmem : '\n' ∈ s
    · rw [after_eq_of_mem hmem code blank] at h
      exact .inr h
    · rw [code_after hmem] at h
      cases h

/-! ## Texts that begin or end with code -/

/-- A character with which code begins: it is neither blank nor a slash. -/
def IsCodeChar (c : Char) : Prop := Text.isBlank c = false ∧ c ≠ '/'

/-- Such a character is no newline. -/
theorem IsCodeChar.ne_newline (h : IsCodeChar c) : c ≠ '\n' := by
  rintro rfl
  exact absurd h.1 (by decide)

/-- With such a character code begins, outside of comments. -/
theorem IsCodeChar.step (h : IsCodeChar c) :
    state.step c = if state = .comment then .comment else .code := by
  cases state <;> simp [LineState.step, h.ne_newline, h.1, h.2]

/-- Outside of comments it does not matter where code begins. -/
theorem IsCodeChar.after_cons (h : IsCodeChar c) (hstate : state ≠ .comment) :
    state.after (c :: s) = blank.after (c :: s) := by
  rw [LineState.after_cons, LineState.after_cons, h.step, h.step, if_neg hstate, if_neg nofun]

/-- Code that begins in no comment and does not end in one by itself ends in none. -/
theorem IsCodeChar.after_eq_comment (h : IsCodeChar c) (hafter : state.after (c :: s) = .comment) :
    state = .comment ∨ blank.after (c :: s) = .comment := by
  by_cases hstate : state = .comment
  · exact .inl hstate
  · rw [h.after_cons hstate] at hafter
    exact .inr hafter

/-- What ends with such a character ends in code or in a comment. -/
theorem IsCodeChar.after_concat (h : IsCodeChar c) :
    state.after (s ++ [c]) = .code ∨ state.after (s ++ [c]) = .comment := by
  rw [after_append, LineState.after_cons, after_nil, h.step]
  split
  · exact .inr rfl
  · exact .inl rfl

/-! ## Lines -/

/-- A line without a newline is a comment exactly if two slashes come behind its blanks. -/
theorem blank_after_eq_comment_iff (h : '\n' ∉ s) :
    blank.after s = .comment ↔ isLineComment s = true := by
  induction s with
  | nil => simp [isLineComment, Text.trimStart]
  | cons c s ih =>
    have hc : c ≠ '\n' := fun heq => h (heq ▸ List.mem_cons_self ..)
    have hs : '\n' ∉ s := fun hmem => h (List.mem_cons_of_mem _ hmem)
    rw [after_cons, step, if_neg hc]
    cases hblank : Text.isBlank c with
    | true =>
      have htrim : isLineComment (c :: s) = isLineComment s := by
        simp [isLineComment, Text.trimStart, hblank]
      rw [htrim]
      exact ih hs
    | false =>
      have htrim : isLineComment (c :: s) = ['/', '/'].isPrefixOf (c :: s) := by
        simp [isLineComment, Text.trimStart, hblank]
      rw [htrim]
      simp only [Bool.false_eq_true, if_false]
      -- the first two characters decide
      by_cases hslash : c = '/'
      · subst hslash
        cases s with
        | nil => simp
        | cons d s =>
          have hd : d ≠ '\n' := fun heq => hs (heq ▸ List.mem_cons_self ..)
          have hrest : '\n' ∉ s := fun hmem => hs (List.mem_cons_of_mem _ hmem)
          rw [if_pos rfl, after_cons, step, if_neg hd]
          by_cases hslash' : d = '/'
          · simp [hslash', comment_after hrest]
          · simp [hslash', Ne.symm hslash', code_after hrest]
      · rw [if_neg hslash, code_after hs]
        simp [Ne.symm hslash]

/-- Behind lines that all have their newlines nothing is known. -/
theorem blank_after_flatten {ls : List Text} (h : ∀ line ∈ ls, line.getLast? = some '\n') :
    blank.after ls.flatten = .blank := by
  induction ls with
  | nil => rfl
  | cons line ls ih =>
    rw [List.flatten_cons, after_append, after_of_getLast? (h line (List.mem_cons_self ..))]
    exact ih fun other hother => h other (List.mem_cons_of_mem _ hother)

end LineState

namespace Text

open LineState (blank)

variable {s : Text}

/-! ## The last line -/

/-- A text ends in a comment: its last line is a line comment, and no newline ends it. -/
def EndsInComment (s : Text) : Prop :=
  ∃ line, (lines s).getLast? = some line ∧ line.getLast? ≠ some '\n' ∧ isLineComment line = true

/-- A text ends in a comment exactly if going through it ends in one. -/
theorem endsInComment_iff : EndsInComment s ↔ blank.after s = .comment := by
  obtain ⟨front, last, hlast, hfront, hlines, htext⟩ := lines_split s
  have hafter : blank.after s = blank.after last := by
    rw [htext, LineState.after_append, LineState.blank_after_flatten hfront]
  rw [hafter, LineState.blank_after_eq_comment_iff hlast, EndsInComment, hlines]
  by_cases hnil : last = []
  · -- the last line has its newline
    rw [if_pos hnil, List.append_nil, hnil]
    constructor
    · rintro ⟨line, hline, hnewline, -⟩
      exact absurd (hfront line (List.mem_of_getLast? hline)) hnewline
    · rintro hcomment
      cases hcomment
  · rw [if_neg hnil, List.getLast?_concat]
    constructor
    · rintro ⟨line, hline, -, hcomment⟩
      obtain rfl := Option.some.inj hline
      exact hcomment
    · intro hcomment
      exact ⟨last, rfl, fun hnewline => hlast (List.mem_of_getLast? hnewline), hcomment⟩

/-- If some of the lines of a text end in a comment, then the text does. -/
theorem after_eq_comment_of_sublist {ls : List Text} (hsublist : ls.Sublist (lines s))
    (h : blank.after ls.flatten = .comment) : blank.after s = .comment := by
  obtain ⟨front, last, -, hfront, hlines, htext⟩ := lines_split s
  rw [hlines, List.sublist_append_iff] at hsublist
  obtain ⟨ls₁, ls₂, rfl, hls₁, hls₂⟩ := hsublist
  rw [List.flatten_append, LineState.after_append,
    LineState.blank_after_flatten fun line hline => hfront line (hls₁.subset hline)] at h
  rw [htext, LineState.after_append, LineState.blank_after_flatten hfront]
  -- only the last line has no newline, and it is among them
  by_cases hnil : last = []
  · rw [if_pos hnil] at hls₂
    rw [List.sublist_nil.1 hls₂] at h
    cases h
  · rw [if_neg hnil] at hls₂
    cases hls₂ with
    | cons _ hrest =>
      rw [List.sublist_nil.1 hrest] at h
      cases h
    | cons_cons _ hrest =>
      rwa [List.sublist_nil.1 hrest, List.flatten_singleton] at h

end Text

end ScriptBundle
