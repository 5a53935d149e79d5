/-
# Calls that are recognized

A script is searched for calls from left to right.  What is found has target characters between its
quotes, and a call that is written behind text in which no call can begin is found.  On the way from
the tokens of a text to the parts of a file no call is lost.

## Main content

- `tokens_append_of_not_mem`: text without the letter that calls begin with is passed over.
- `Call.IsWritten` says that a call has the form of one, and `Span.isWritten_of_require_mem` that all
  calls that are found do.
- `Span.require_mem_ofTokens_iff` and `Part.follow_mem_ofSpans_iff`: the calls among the spans are
  those among the tokens, and they are followed if no templates are compiled.
-/
import ScriptBundle.Source

namespace ScriptBundle

variable {call : Call}

/-! ## Where calls begin -/

/-- A call begins with the first letter of its opening. -/
theorem Call.at?_eq_none_of_ne {c : Char} (h : c ≠ 'r') (s : Text) : Call.at? (c :: s) = none := by
  cases hcall : Call.at? (c :: s) with
  | none => rfl
  | some call =>
    obtain ⟨left, right, rest, -, -, -, -, heq, -⟩ := Call.at?_eq_some_iff.1 hcall
    exact absurd (List.cons.inj heq).1 h

/-- Text in which no call begins is read character by character. -/
theorem tokens_append_of_not_mem {s : Text} (h : 'r' ∉ s) (t : Text) :
    tokens (s ++ t) = s.map Token.char ++ tokens t := by
  induction s with
  | nil => rfl
  | cons c s ih =>
    have hhead : c ≠ 'r' := fun heq => h (heq ▸ List.mem_cons_self ..)
    have htail : 'r' ∉ s := fun hmem => h (List.mem_cons_of_mem _ hmem)
    rw [List.cons_append, tokens_of_none (Call.at?_eq_none_of_ne hhead _), ih htail, List.map_cons,
      List.cons_append]

/-! ## What is found -/

/-- Among characters there are no calls. -/
theorem call_not_mem_map_char (s : Text) : .call call ∉ s.map Token.char := by
  intro h
  obtain ⟨c, -, hc⟩ := List.mem_map.1 h
  cases hc

/-- A call is written as one: its target stands between quotes, is not empty and has target
characters only. -/
def Call.IsWritten (call : Call) : Prop :=
  ∃ left right semicolon, isQuote left ∧ isQuote right ∧ call.target ≠ [] ∧
    (∀ c ∈ call.target, isTargetChar c) ∧ call.text = write left call.target right semicolon

/-- What is read as a call is written as one. -/
theorem Call.isWritten_of_at? {s : Text} (h : at? s = some call) : call.IsWritten := by
  obtain ⟨left, right, rest, hleft, hright, hne, htarget, -, htext⟩ := at?_eq_some_iff.1 h
  exact ⟨left, right, _, hleft, hright, hne, htarget, htext⟩

/-- There is no newline in a call. -/
theorem Call.IsWritten.newline_not_mem (h : call.IsWritten) : '\n' ∉ call.text := by
  obtain ⟨left, right, semicolon, hleft, hright, -, htarget, htext⟩ := h
  have hleft' : '\n' ≠ left := by
    rintro rfl
    exact absurd hleft (by decide)
  have hright' : '\n' ≠ right := by
    rintro rfl
    exact absurd hright (by decide)
  have htarget' : '\n' ∉ call.target := fun hmem => absurd (htarget _ hmem) (by decide)
  rw [htext, write]
  cases semicolon <;> simp [opening, hleft', hright', htarget']

/-- The calls that are found in a text are written as calls. -/
theorem isWritten_of_mem_tokens (s : Text) (h : .call call ∈ tokens s) : call.IsWritten := by
  match hcall : Call.at? s with
  | some found =>
    rw [tokens_of_call hcall] at h
    rcases List.mem_cons.1 h with heq | hrest
    · obtain rfl := Token.call.inj heq
      exact Call.isWritten_of_at? hcall
    · exact isWritten_of_mem_tokens _ hrest
  | none =>
    match s with
    | [] => cases h
    | c :: s =>
      rw [tokens_of_none hcall] at h
      rcases List.mem_cons.1 h with heq | hrest
      · cases heq
      · exact isWritten_of_mem_tokens s hrest
termination_by s.length
decreasing_by
  · exact Call.length_drop_lt hcall
  · simp

/-- The texts of lines make up the text of their pieces. -/
theorem Piece.text_map_line (ls : List Text) :
    (ls.map Piece.line).flatMap Piece.text = ls.flatten := by
  rw [List.flatMap_map]
  exact List.flatMap_id

/-- The calls that are found in a piece are written as calls. -/
theorem Piece.isWritten_of_mem_tokens {piece : Piece} (h : .call call ∈ piece.tokens) :
    call.IsWritten := by
  cases piece with
  | verbatim text => exact absurd h (call_not_mem_map_char text)
  | line text =>
    rw [tokens] at h
    split at h
    · exact absurd h (call_not_mem_map_char text)
    · exact ScriptBundle.isWritten_of_mem_tokens text h

/-! ## From tokens to parts -/

namespace Span

/-- A token put in front of spans adds its call to theirs. -/
theorem require_mem_consToken_iff {token : Token} {spans : List Span} :
    .require call ∈ consToken token spans ↔ token = .call call ∨ .require call ∈ spans := by
  cases token with
  | call other => simp [consToken, eq_comm]
  | char c =>
    cases spans with
    | nil => simp [consToken]
    | cons span spans => cases span <;> simp [consToken]

/-- The calls among the spans are those among the tokens. -/
theorem require_mem_ofTokens_iff {tokens : List Token} :
    .require call ∈ ofTokens tokens ↔ .call call ∈ tokens := by
  induction tokens with
  | nil => simp
  | cons token tokens ih =>
    rw [ofTokens_cons, require_mem_consToken_iff, ih, List.mem_cons, eq_comm]

/-- The calls among the spans of pieces are those that are found in the pieces. -/
theorem require_mem_ofPieces_iff {pieces : List Piece} :
    .require call ∈ ofPieces pieces ↔ ∃ piece ∈ pieces, .call call ∈ piece.tokens := by
  rw [ofPieces, require_mem_ofTokens_iff, List.mem_flatMap]

/-- The calls among the spans of pieces are written as calls. -/
theorem isWritten_of_require_mem {pieces : List Piece} (h : .require call ∈ ofPieces pieces) :
    call.IsWritten := by
  obtain ⟨piece, -, htoken⟩ := require_mem_ofPieces_iff.1 h
  exact Piece.isWritten_of_mem_tokens htoken

end Span

namespace Part

/-- A call that is followed stands in the text. -/
theorem require_mem_of_follow_mem {compiling : Bool} {spans : List Span}
    (h : .follow call ∈ ofSpans compiling spans) : .require call ∈ spans := by
  fun_induction ofSpans compiling spans with
  | case1 => cases h
  | case2 text other spans front hfront ih =>
    simp only [List.mem_cons, reduceCtorEq, false_or] at h
    exact List.mem_cons_of_mem _ (List.mem_cons_of_mem _ (ih h))
  | case3 text other spans hnone ih =>
    simp only [List.mem_cons, reduceCtorEq, false_or, Part.follow.injEq] at h
    rcases h with rfl | hrest
    · exact List.mem_cons_of_mem _ (List.mem_cons_self ..)
    · exact List.mem_cons_of_mem _ (List.mem_cons_of_mem _ (ih hrest))
  | case4 text spans hother ih =>
    simp only [List.mem_cons, reduceCtorEq, false_or] at h
    exact List.mem_cons_of_mem _ (ih h)
  | case5 other spans ih =>
    simp only [List.mem_cons, Part.follow.injEq] at h
    rcases h with rfl | hrest
    · exact List.mem_cons_self ..
    · exact List.mem_cons_of_mem _ (ih hrest)

/-- The part that a span is by itself. -/
def ofSpan : Span → Part
  | .plain text => .copy text
  | .require call => .follow call

/-- If no templates are compiled, every span is a part by itself. -/
theorem ofSpans_false (spans : List Span) : ofSpans false spans = spans.map ofSpan := by
  fun_induction ofSpans false spans with
  | case1 => rfl
  | case2 text other spans front hfront ih => cases hfront
  | case3 text other spans hnone ih => simp [ih, ofSpan]
  | case4 text spans hother ih => simp [ih, ofSpan]
  | case5 other spans ih => simp [ih, ofSpan]

/-- Where nothing is required, compiling templates makes no difference. -/
theorem ofSpans_of_require_not_mem {spans : List Span} (h : ∀ call, .require call ∉ spans)
    (compiling : Bool) : ofSpans compiling spans = ofSpans false spans := by
  induction spans with
  | nil => rfl
  | cons span spans ih =>
    have hrest := ih fun call hcall => h call (List.mem_cons_of_mem _ hcall)
    cases span with
    | require call => exact absurd (List.mem_cons_self ..) (h call)
    | plain text =>
      cases spans with
      | nil => rfl
      | cons next spans =>
        cases next with
        | require call => exact absurd (List.mem_cons_of_mem _ (List.mem_cons_self ..)) (h call)
        | plain other => exact congrArg (.copy text :: ·) hrest

/-- If no templates are compiled, all calls are followed. -/
theorem follow_mem_ofSpans_iff {spans : List Span} :
    .follow call ∈ ofSpans false spans ↔ .require call ∈ spans := by
  rw [ofSpans_false, List.mem_map]
  constructor
  · rintro ⟨span, hspan, heq⟩
    cases span with
    | plain text => cases heq
    | require other =>
      cases heq
      exact hspan
  · exact fun h => ⟨_, h, rfl⟩

/-- If no templates are compiled, none is put in the place of a call. -/
theorem inline_not_mem_ofSpans {spans : List Span} {target : Text} :
    .inline target ∉ ofSpans false spans := by
  rw [ofSpans_false, List.mem_map]
  rintro ⟨span, -, heq⟩
  cases span <;> cases heq

end Part

end ScriptBundle
