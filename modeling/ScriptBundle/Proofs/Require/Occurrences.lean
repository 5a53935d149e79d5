/-
# Where calls stand

The calls among the spans of a script are those that are written in its lines, all of them and each one
at its offset, apart from the lines that are comments.  After a call the search goes on behind it, and
nothing is missed that way: a call has one bracket that opens, at the end of its opening, and ends with
no character of the opening, so no call begins inside another one.  A newline stands in no call, so it
does not matter that every line is searched on its own.

## Main content

- `Call.StandsAt` says that a call is written at an offset of a text.
- `Call.at?_drop_eq_none` and `Call.StandsAt.le_of_lt`: calls do not overlap.
- `Token.mem_callsFrom_tokens`: the calls that are found in a text, with their offsets.
- `Call.at?_drop_of_lines`: a call stands in a line exactly if it stands there in the text.
- `Span.calls_exact`: the calls among the spans of a script are those that stand in its lines.
-/
import Mathlib.Data.List.Basic
import ScriptBundle.Proofs.Require.Recognized
import ScriptBundle.Proofs.Text.Lines

namespace ScriptBundle

/-! ## Calls at offsets -/

namespace Call

variable {s t : Text} {call other : Call} {offset k : Nat}

/-- At an offset of a text a call is written: the opening, a quote, target characters, a quote and a
bracket.  A semicolon directly behind them belongs to the call. -/
def StandsAt (call : Call) (s : Text) (offset : Nat) : Prop :=
  ∃ front left right rest, front.length = offset ∧ isQuote left ∧ isQuote right ∧ call.target ≠ [] ∧
    (∀ c ∈ call.target, isTargetChar c) ∧
    s = front ++ (opening ++ left :: call.target ++ [right, ')'] ++ rest) ∧
    call.text = write left call.target right (rest.head? = some ';')

/-- A call stands at an offset exactly if it is read there. -/
theorem standsAt_iff : call.StandsAt s offset ↔ at? (s.drop offset) = some call := by
  rw [at?_eq_some_iff]
  constructor
  · rintro ⟨front, left, right, rest, rfl, hleft, hright, hne, htarget, rfl, htext⟩
    exact ⟨left, right, rest, hleft, hright, hne, htarget, List.drop_left, htext⟩
  · rintro ⟨left, right, rest, hleft, hright, hne, htarget, hdrop, htext⟩
    have hoffset : offset ≤ s.length := by
      rcases Nat.le_total offset s.length with hle | hge
      · exact hle
      · rw [List.drop_eq_nil_of_le hge] at hdrop
        cases hdrop
    refine ⟨s.take offset, left, right, rest, List.length_take_of_le hoffset, hleft, hright, hne,
      htarget, ?_, htext⟩
    rw [← hdrop, List.take_append_drop]

/-- The target is the longest run of target characters behind the first quote. -/
theorem StandsAt.target_eq (h : call.StandsAt s offset) :
    call.target = (s.drop (offset + opening.length + 1)).takeWhile isTargetChar := by
  obtain ⟨front, left, right, rest, rfl, -, hright, -, htarget, rfl, -⟩ := h
  have hdrop : (front ++ (opening ++ left :: call.target ++ [right, ')'] ++ rest)).drop
      (front.length + opening.length + 1) = call.target ++ right :: ')' :: rest := by
    rw [Nat.add_assoc, List.drop_length_add_append]
    simp [opening]
  rw [hdrop, List.takeWhile_append_of_pos htarget,
    List.takeWhile_cons_of_neg (by simp [isTargetChar_of_isQuote hright]), List.append_nil]

/-! ## Calls do not overlap -/

/-- Behind its opening, a call has no bracket that opens. -/
theorem IsWritten.exists_tail (h : call.IsWritten) :
    ∃ tail, call.text = opening ++ tail ∧ '(' ∉ tail := by
  obtain ⟨left, right, semicolon, hleft, hright, -, htarget, htext⟩ := h
  have hquote {c : Char} (hc : isQuote c) : '(' ≠ c := by
    rintro rfl
    exact absurd hc (by decide)
  have hchars : '(' ∉ call.target := fun hmem => absurd (htarget _ hmem) (by decide)
  refine ⟨left :: call.target ++ [right, ')'] ++ (if semicolon then [';'] else []), ?_, ?_⟩
  · rw [htext, write]
    simp only [List.append_assoc]
  · cases semicolon <;> simp [hquote hleft, hquote hright, hchars]

/-- A call ends with a character that the opening does not have. -/
theorem IsWritten.getLast?_not_mem (h : call.IsWritten) :
    ∃ c, call.text.getLast? = some c ∧ c ∉ opening := by
  obtain ⟨left, right, semicolon, -, -, -, -, htext⟩ := h
  rw [htext, write]
  cases semicolon with
  | true => exact ⟨';', List.getLast?_concat, by decide⟩
  | false => exact ⟨')', by simp [List.getLast?_cons], by decide⟩

/-- No call begins inside another one. -/
theorem at?_drop_eq_none (h : at? s = some call) (hpos : 0 < k) (hk : k < call.text.length) :
    at? (s.drop k) = none := by
  have hwritten := isWritten_of_at? h
  obtain ⟨c, hlast, hc⟩ := hwritten.getLast?_not_mem
  obtain ⟨tail, htail, hbracket⟩ := hwritten.exists_tail
  rw [Option.eq_none_iff_forall_ne_some]
  intro other hother
  obtain ⟨left, right, rest, -, -, -, -, hdrop, -⟩ := at?_eq_some_iff.1 hother
  obtain ⟨more, hmore⟩ : ∃ more, s.drop k = opening ++ more := ⟨_, by
    rw [hdrop, List.append_assoc, List.append_assoc]⟩
  -- the rest of the first call stands in front of what follows both
  rw [← text_append_drop h, List.drop_append_of_le_length (Nat.le_of_lt hk)] at hmore
  rcases List.append_eq_append_iff.1 hmore with ⟨middle, hopening, -⟩ | ⟨middle, hrest, -⟩
  · -- the first call ends inside the opening of the second one
    have hmem : c ∈ call.text.drop k := by
      apply List.mem_of_getLast?
      rw [List.getLast?_drop, if_neg (by omega), hlast]
    rw [hopening] at hc
    exact hc (List.mem_append_left _ hmem)
  · -- the opening of the second call has a bracket where the first one has none
    rw [← List.take_append_drop k call.text, hrest, ← List.append_assoc] at htail
    have hcount := congrArg (List.count '(') htail
    have hfront : '(' ∉ call.text.take k := by
      rw [List.count_append, List.count_append, List.count_append,
        List.count_eq_zero.2 hbracket] at hcount
      have hone : opening.count '(' = 1 := by decide
      rw [← List.count_eq_zero]
      omega
    have hrun := congrArg (List.takeWhile (· ≠ '(')) htail
    have hopens (t : Text) : (opening ++ t).takeWhile (· ≠ '(') = opening.dropLast := rfl
    rw [List.append_assoc, List.takeWhile_append_of_pos, hopens, hopens] at hrun
    · have hlength := congrArg List.length hrun
      rw [List.length_append, List.length_take_of_le (Nat.le_of_lt hk)] at hlength
      omega
    · intro d hd
      exact decide_eq_true fun heq => hfront (heq ▸ hd)

/-- Of two calls, the second one begins behind the first. -/
theorem StandsAt.le_of_lt {offset' : Nat} (h : call.StandsAt s offset)
    (h' : other.StandsAt s offset') (hlt : offset < offset') :
    offset + call.text.length ≤ offset' := by
  rw [standsAt_iff] at h h'
  rcases Nat.lt_or_ge offset' (offset + call.text.length) with hinside | hbehind
  · have hnone := at?_drop_eq_none (k := offset' - offset) h (by omega) (by omega)
    rw [List.drop_drop, Nat.add_sub_cancel' (Nat.le_of_lt hlt), h'] at hnone
    cases hnone
  · exact hbehind

end Call

/-! ## Calls among tokens -/

namespace Token

variable {s : Text} {call : Call} {offset place : Nat} {tokens : List Token}

/-- The calls among tokens, each with its offset; the first token stands at the given one. -/
def callsFrom (offset : Nat) : List Token → List (Nat × Call)
  | [] => []
  | .char _ :: tokens => callsFrom (offset + 1) tokens
  | .call call :: tokens => (offset, call) :: callsFrom (offset + call.text.length) tokens

/-- The tokens behind others begin where the text of these ends. -/
theorem callsFrom_append (offset : Nat) (tokens more : List Token) :
    callsFrom offset (tokens ++ more) =
      callsFrom offset tokens ++ callsFrom (offset + (tokens.flatMap text).length) more := by
  induction tokens generalizing offset with
  | nil => rfl
  | cons token tokens ih =>
    cases token with
    | char c =>
      rw [List.cons_append, callsFrom, callsFrom, ih, List.flatMap_cons, List.length_append,
        Nat.add_assoc]
      rfl
    | call call =>
      rw [List.cons_append, callsFrom, callsFrom, ih, List.flatMap_cons, List.length_append,
        Nat.add_assoc, List.cons_append]
      rfl

/-- Among characters there are no calls. -/
theorem callsFrom_map_char (offset : Nat) (s : Text) : callsFrom offset (s.map char) = [] := by
  induction s generalizing offset with
  | nil => rfl
  | cons c s ih => exact ih (offset + 1)

/-- Every call among the tokens has an offset. -/
theorem call_mem_iff (offset : Nat) :
    .call call ∈ tokens ↔ ∃ place, (place, call) ∈ callsFrom offset tokens := by
  induction tokens generalizing offset with
  | nil => simp [callsFrom]
  | cons token tokens ih =>
    cases token with
    | char c => simp [callsFrom, ih (offset + 1)]
    | call other =>
      rw [List.mem_cons, Token.call.injEq, ih (offset + other.text.length), callsFrom]
      simp only [List.mem_cons, Prod.mk.injEq]
      constructor
      · rintro (rfl | ⟨place, hplace⟩)
        · exact ⟨offset, .inl ⟨rfl, rfl⟩⟩
        · exact ⟨place, .inr hplace⟩
      · rintro ⟨place, ⟨-, rfl⟩ | hplace⟩
        · exact .inl rfl
        · exact .inr ⟨place, hplace⟩

/-- No call stands in front of the first token. -/
theorem le_of_mem_callsFrom (h : (place, call) ∈ callsFrom offset tokens) : offset ≤ place := by
  induction tokens generalizing offset with
  | nil => cases h
  | cons token tokens ih =>
    cases token with
    | char c => exact Nat.le_of_succ_le (ih h)
    | call other =>
      rcases List.mem_cons.1 h with heq | hrest
      · exact Nat.le_of_eq (Prod.mk.inj heq).1.symm
      · exact Nat.le_trans (Nat.le_add_right ..) (ih hrest)

/-- The calls come in the order of the text, each one behind the end of the one before it. -/
theorem pairwise_callsFrom (offset : Nat) (tokens : List Token) :
    (callsFrom offset tokens).Pairwise fun found next =>
      found.1 + found.2.text.length ≤ next.1 := by
  induction tokens generalizing offset with
  | nil => exact .nil
  | cons token tokens ih =>
    cases token with
    | char c => exact ih (offset + 1)
    | call call =>
      exact List.pairwise_cons.2 ⟨fun next hnext => le_of_mem_callsFrom hnext, ih _⟩

/-- The calls among the tokens of a text are those that are read at its offsets. -/
theorem mem_callsFrom_tokens (s : Text) (offset : Nat) :
    (place, call) ∈ callsFrom offset (ScriptBundle.tokens s) ↔
      ∃ k, place = offset + k ∧ Call.at? (s.drop k) = some call := by
  match hcall : Call.at? s with
  | some found =>
    rw [tokens_of_call hcall, callsFrom, List.mem_cons, Prod.mk.injEq,
      mem_callsFrom_tokens (s.drop found.text.length)]
    constructor
    · rintro (⟨rfl, rfl⟩ | ⟨k, rfl, hk⟩)
      · exact ⟨0, rfl, hcall⟩
      · rw [List.drop_drop] at hk
        exact ⟨found.text.length + k, Nat.add_assoc .., hk⟩
    · rintro ⟨k, rfl, hk⟩
      -- the call is the first one, or stands behind it
      rcases Nat.eq_zero_or_pos k with rfl | hpos
      · exact .inl ⟨rfl, Option.some.inj (hk.symm.trans hcall)⟩
      · rcases Nat.lt_or_ge k found.text.length with hinside | hbehind
        · rw [Call.at?_drop_eq_none hcall hpos hinside] at hk
          cases hk
        · refine .inr ⟨k - found.text.length, by omega, ?_⟩
          rwa [List.drop_drop, Nat.add_sub_cancel' hbehind]
  | none =>
    match s with
    | [] =>
      rw [tokens_nil]
      constructor
      · intro h
        cases h
      · rintro ⟨k, -, hk⟩
        rw [List.drop_nil] at hk
        cases hk
    | c :: s =>
      rw [tokens_of_none hcall, callsFrom, mem_callsFrom_tokens s]
      constructor
      · rintro ⟨k, rfl, hk⟩
        exact ⟨k + 1, by omega, hk⟩
      · rintro ⟨k, rfl, hk⟩
        cases k with
        | zero => cases hcall.symm.trans hk
        | succ k => exact ⟨k, by omega, hk⟩
termination_by s.length
decreasing_by
  · exact Call.length_drop_lt hcall
  · simp

/-- The calls among the tokens of pieces are those of each piece, behind the texts of the pieces before
it. -/
theorem mem_callsFrom_pieces (pieces : List Piece) (offset : Nat) :
    (place, call) ∈ callsFrom offset (pieces.flatMap Piece.tokens) ↔
      ∃ front piece back, pieces = front ++ piece :: back ∧
        (place, call) ∈ callsFrom (offset + (front.flatMap Piece.text).length) piece.tokens := by
  induction pieces generalizing offset with
  | nil => simp [callsFrom]
  | cons piece pieces ih =>
    rw [List.flatMap_cons, callsFrom_append, List.mem_append, ih, Piece.text_tokens]
    constructor
    · rintro (h | ⟨front, other, back, rfl, h⟩)
      · exact ⟨[], piece, pieces, rfl, h⟩
      · refine ⟨piece :: front, other, back, rfl, ?_⟩
        rwa [List.flatMap_cons, List.length_append, ← Nat.add_assoc]
    · rintro ⟨front, other, back, heq, h⟩
      cases front with
      | nil =>
        obtain ⟨rfl, rfl⟩ := List.cons.inj heq
        exact .inl h
      | cons first front =>
        obtain ⟨rfl, rfl⟩ := List.cons.inj heq
        rw [List.flatMap_cons, List.length_append, ← Nat.add_assoc] at h
        exact .inr ⟨front, other, back, rfl, h⟩

end Token

/-! ## Calls among spans -/

namespace Span

/-- The calls among spans, each with its offset; the first span stands at the given one.  An offset is
the number of characters in front. -/
def callsFrom (offset : Nat) : List Span → List (Nat × Call)
  | [] => []
  | .plain text :: spans => callsFrom (offset + text.length) spans
  | .require call :: spans => (offset, call) :: callsFrom (offset + call.text.length) spans

/-- The calls among the spans of a text, each with its offset. -/
def calls (spans : List Span) : List (Nat × Call) := callsFrom 0 spans

/-- Merging characters keeps the calls where they are. -/
theorem callsFrom_ofTokens (offset : Nat) (tokens : List Token) :
    callsFrom offset (ofTokens tokens) = Token.callsFrom offset tokens := by
  induction tokens generalizing offset with
  | nil => rfl
  | cons token tokens ih =>
    cases token with
    | call call => exact congrArg ((offset, call) :: ·) (ih _)
    | char c =>
      rw [Token.callsFrom, ← ih, ofTokens_cons]
      cases ofTokens tokens with
      | nil => rfl
      | cons span spans =>
        cases span with
        | require call => rfl
        | plain text =>
          rw [consToken, callsFrom, callsFrom, List.length_cons, Nat.add_assoc, Nat.add_comm 1]

end Span

/-! ## Calls in lines -/

namespace Call

variable {s t : Text} {line : Text} {front back : List Text} {k : Nat}

/-- A newline stands in no call, so what follows it does not matter. -/
theorem at?_append_of_newline_mem (h : '\n' ∈ s) (t : Text) : at? (s ++ t) = at? s := by
  have hnewline {left right : Char} {target : Text} (hleft : isQuote left) (hright : isQuote right)
      (hne : target ≠ []) (htarget : ∀ c ∈ target, isTargetChar c) :
      '\n' ∉ opening ++ left :: target ++ [right, ')'] := by
    have hwritten : IsWritten ⟨target, write left target right false⟩ :=
      ⟨left, right, false, hleft, hright, hne, htarget, rfl⟩
    simpa [write] using hwritten.newline_not_mem
  apply Option.ext
  intro call
  rw [at?_eq_some_iff, at?_eq_some_iff]
  -- either way there is a rest behind the call, with the newline in it, and its head decides
  constructor
  · rintro ⟨left, right, rest, hleft, hright, hne, htarget, heq, htext⟩
    have hcall := hnewline hleft hright hne htarget
    rcases List.append_eq_append_iff.1 heq with ⟨middle, hwritten, -⟩ | ⟨middle, rfl, rfl⟩
    · rw [hwritten] at hcall
      exact absurd (List.mem_append_left _ h) hcall
    · have hmiddle : middle ≠ [] := by
        rintro rfl
        rw [List.append_nil] at h
        exact hcall h
      rw [List.head?_append_of_ne_nil _ hmiddle] at htext
      exact ⟨left, right, middle, hleft, hright, hne, htarget, rfl, htext⟩
  · rintro ⟨left, right, rest, hleft, hright, hne, htarget, rfl, htext⟩
    have hrest : rest ≠ [] := by
      rintro rfl
      rw [List.append_nil] at h
      exact hnewline hleft hright hne htarget h
    refine ⟨left, right, rest ++ t, hleft, hright, hne, htarget, List.append_assoc .., ?_⟩
    rw [List.head?_append_of_ne_nil _ hrest]
    exact htext

/-- A call stands in a line exactly if it stands there in the text. -/
theorem at?_drop_of_lines (h : Text.lines s = front ++ line :: back) (hk : k < line.length) :
    at? (s.drop (front.flatten.length + k)) = at? (line.drop k) := by
  have hs : s = front.flatten ++ (line ++ back.flatten) := by
    rw [← Text.flatten_lines s, h, List.flatten_append, List.flatten_cons]
  rw [hs, List.drop_length_add_append, List.drop_append_of_le_length (Nat.le_of_lt hk)]
  by_cases hback : back = []
  · rw [hback, List.flatten_nil, List.append_nil]
  · apply at?_append_of_newline_mem
    apply List.mem_of_getLast?
    rw [List.getLast?_drop, if_neg (Nat.not_le_of_lt hk), Text.getLast?_of_lines h hback]

end Call

/-! ## All calls of a script -/

/-- A text has a call exactly if one is read at some offset. -/
theorem containsCall_iff {s : Text} :
    containsCall s = true ↔ ∃ offset call, Call.at? (s.drop offset) = some call := by
  have hany : containsCall s = true ↔ ∃ call, .call call ∈ tokens s := by
    unfold containsCall
    rw [List.any_eq_true]
    constructor
    · rintro ⟨token, hmem, hcall⟩
      cases token with
      | char c => cases hcall
      | call call => exact ⟨call, hmem⟩
    · rintro ⟨call, hmem⟩
      exact ⟨_, hmem, rfl⟩
  rw [hany]
  simp only [Token.call_mem_iff 0, Token.mem_callsFrom_tokens]
  constructor
  · rintro ⟨call, place, offset, -, hcall⟩
    exact ⟨offset, call, hcall⟩
  · rintro ⟨offset, call, hcall⟩
    exact ⟨call, _, offset, rfl, hcall⟩

/-- The calls of a piece that is a line: a comment has none. -/
theorem Piece.mem_callsFrom_line {line : Text} {offset place : Nat} {call : Call} :
    (place, call) ∈ Token.callsFrom offset (Piece.line line).tokens ↔
      isLineComment line = false ∧ ∃ k, place = offset + k ∧ Call.at? (line.drop k) = some call := by
  rw [tokens]
  cases isLineComment line with
  | true => simp [Token.callsFrom_map_char]
  | false => simp [Token.mem_callsFrom_tokens]

namespace Span

/-- The calls that are found in the lines of a text are those that stand in it, apart from comments. -/
theorem mem_callsFrom_lines {s : Text} {place : Nat} {call : Call} :
    (place, call) ∈ Token.callsFrom 0 (((Text.lines s).map Piece.line).flatMap Piece.tokens) ↔
      call.StandsAt s place ∧ ∃ line, Text.LineAt s place line ∧ isLineComment line = false := by
  rw [Token.mem_callsFrom_pieces, Call.standsAt_iff]
  constructor
  · rintro ⟨front, piece, back, hpieces, h⟩
    obtain ⟨front, rest, hlines, rfl, hrest⟩ := List.map_eq_append_iff.1 hpieces
    obtain ⟨line, back, rfl, rfl, rfl⟩ := List.map_eq_cons_iff.1 hrest
    rw [Piece.mem_callsFrom_line, Piece.text_map_line, Nat.zero_add] at h
    obtain ⟨hcode, k, rfl, hcall⟩ := h
    have hk : k < line.length := by
      rcases Nat.lt_or_ge k line.length with hlt | hge
      · exact hlt
      · rw [List.drop_eq_nil_of_le hge] at hcall
        cases hcall
    rw [Call.at?_drop_of_lines hlines hk]
    exact ⟨hcall, line, ⟨front, back, hlines, Nat.le_add_right .., Nat.add_lt_add_left hk _⟩, hcode⟩
  · rintro ⟨hcall, line, ⟨front, back, hlines, hle, hlt⟩, hcode⟩
    obtain ⟨k, rfl⟩ := Nat.exists_eq_add_of_le hle
    rw [Call.at?_drop_of_lines hlines (Nat.lt_of_add_lt_add_left hlt)] at hcall
    refine ⟨front.map Piece.line, .line line, back.map Piece.line, ?_, ?_⟩
    · rw [hlines, List.map_append, List.map_cons]
    · rw [Piece.mem_callsFrom_line, Piece.text_map_line, Nat.zero_add]
      exact ⟨hcode, k, rfl, hcall⟩

/-- The calls among the spans of a script are those that stand in its lines, apart from comments, each
one at its offset and in the order of the text.  The target of a call is the longest run of target
characters behind its first quote, and no two calls of a text overlap.  A text has a call exactly if one
stands anywhere in it. -/
theorem calls_exact (s : Text) :
    (∀ offset call, (offset, call) ∈ calls (ofText s) ↔
      call.StandsAt s offset ∧ ∃ line, Text.LineAt s offset line ∧ isLineComment line = false) ∧
    (calls (ofText s)).Pairwise (fun found next => found.1 + found.2.text.length ≤ next.1) ∧
    (∀ offset (call : Call), call.StandsAt s offset →
      call.target = (s.drop (offset + Call.opening.length + 1)).takeWhile isTargetChar ∧
      ∀ offset' (other : Call), other.StandsAt s offset' → offset < offset' →
        offset + call.text.length ≤ offset') ∧
    (containsCall s = true ↔ ∃ offset call, Call.StandsAt call s offset) := by
  have hcalls : calls (ofText s) =
      Token.callsFrom 0 (((Text.lines s).map Piece.line).flatMap Piece.tokens) :=
    callsFrom_ofTokens ..
  refine ⟨fun offset call => ?_, ?_, fun offset call h => ⟨h.target_eq, fun offset' other h' hlt =>
    h.le_of_lt h' hlt⟩, ?_⟩
  · rw [hcalls]
    exact mem_callsFrom_lines
  · rw [hcalls]
    exact Token.pairwise_callsFrom ..
  · simp only [containsCall_iff, Call.standsAt_iff]

/-- A call behind one that is none, two calls side by side, and a comment. -/
example :
    calls (ofText "f(require('./a' + x), require('b')require(\"c\"));\n// require('d')".toList) =
      [(22, ⟨"b".toList, "require('b')".toList⟩), (34, ⟨"c".toList, "require(\"c\")".toList⟩)] := by
  decide +kernel

end Span

end ScriptBundle
