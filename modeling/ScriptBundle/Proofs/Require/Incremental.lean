/-
# Reading scripts piece by piece

A script may be read as its pieces come: a reader keeps the spans that are complete, and the plain text
behind them, which grows until a call comes or the script ends.  So plain text is shared by neighbouring
pieces and calls are not: each line is searched on its own.  Whatever the pieces are, the reader ends
with the spans that the pieces have all together.

## Main content

- `Call.first?` is the first call of a text; `tokens_of_first?` says that reading goes on behind it.
- `Span.Reader` takes pieces in one by one, and `Span.Reader.Reads` is its invariant.
- `Span.Canonical` says that plain spans are not empty and not neighbours, and
  `Span.canonical_ofTokens` that merging characters leaves no others.
- `Span.Reader.ofPieces_exact`: what a reader makes of any pieces.
-/
import Mathlib.Data.List.Chain
import ScriptBundle.Proofs.Require.Occurrences

namespace ScriptBundle

/-! ## The first call of a text -/

namespace Call

variable {s front behind : Text} {call : Call} {k : Nat}

/-- The first call of a text, with the text in front of it and the text behind it. -/
def first? : Text → Option (Text × Call × Text)
  | [] => none
  | c :: s =>
    match at? (c :: s) with
    | some call => some ([], call, (c :: s).drop call.text.length)
    | none => (first? s).map fun found => (c :: found.1, found.2)

/-- A text without a call is read character by character, and otherwise the first call is read behind
the characters in front of it. -/
theorem tokens_of_first? (s : Text) :
    tokens s =
      match first? s with
      | none => s.map Token.char
      | some (front, call, behind) => front.map Token.char ++ .call call :: tokens behind := by
  induction s with
  | nil => rfl
  | cons c s ih =>
    rw [first?]
    cases hcall : at? (c :: s) with
    | some call => exact tokens_of_call hcall
    | none =>
      rw [tokens_of_none hcall, ih]
      cases first? s with
      | none => rfl
      | some found => rfl

/-- The text behind the first call is shorter than the whole text. -/
theorem length_lt_of_first? (h : first? s = some (front, call, behind)) :
    behind.length < s.length := by
  induction s generalizing front with
  | nil => cases h
  | cons c s ih =>
    rw [first?] at h
    cases hcall : at? (c :: s) with
    | some found =>
      rw [hcall] at h
      cases h
      exact length_drop_lt hcall
    | none =>
      rw [hcall] at h
      obtain ⟨⟨before, found⟩, hfound, heq⟩ := Option.map_eq_some_iff.1 h
      cases heq
      exact Nat.lt_succ_of_lt (ih hfound)

/-- A call ends within the text that it stands in. -/
theorem StandsAt.le_length (h : call.StandsAt s k) : k + call.text.length ≤ s.length := by
  have hdrop := standsAt_iff.1 h
  have hpos := List.length_pos_iff.2 (text_ne_nil hdrop)
  have hsplit := congrArg List.length (text_append_drop hdrop)
  rw [List.length_append, List.length_drop (i := k)] at hsplit
  omega

end Call

namespace Span

variable {tokens : List Token} {spans : List Span}

/-! ## Canonical spans -/

/-- Whether a span is plain text. -/
def isPlain : Span → Bool
  | .plain _ => true
  | .require _ => false

/-- Spans that are merged as far as they can be: no plain text is empty, and no two stand side by
side. -/
structure Canonical (spans : List Span) : Prop where
  /-- Plain text is not empty. -/
  ne_nil : ∀ text, .plain text ∈ spans → text ≠ []
  /-- Of two neighbours one is a call. -/
  apart : spans.IsChain fun span next => ¬ (span.isPlain = true ∧ next.isPlain = true)

/-- A token put in front keeps spans canonical. -/
theorem Canonical.consToken (h : Canonical spans) (token : Token) :
    Canonical (consToken token spans) := by
  obtain ⟨hne, hapart⟩ := h
  cases token with
  | call call =>
    refine ⟨fun text htext => hne text (by simpa [Span.consToken] using htext), ?_⟩
    exact hapart.cons fun next _ => by simp [isPlain]
  | char c =>
    cases spans with
    | nil => exact ⟨by simp [Span.consToken], .singleton _⟩
    | cons span spans =>
      cases span with
      | plain text =>
        -- the character joins this text, which has the neighbour that it had
        constructor
        · intro other hother
          rcases List.mem_cons.1 hother with heq | hrest
          · cases heq
            exact List.cons_ne_nil _ _
          · exact hne other (List.mem_cons_of_mem _ hrest)
        · rw [List.isChain_cons] at hapart
          exact List.isChain_cons.2 hapart
      | require call =>
        constructor
        · intro other hother
          rcases List.mem_cons.1 hother with heq | hrest
          · cases heq
            exact List.cons_ne_nil _ _
          · exact hne other hrest
        · exact hapart.cons fun next hnext => by
            rw [List.head?_cons, Option.mem_some_iff] at hnext
            simp [← hnext, isPlain]

/-- Merging neighbouring characters gives canonical spans. -/
theorem canonical_ofTokens (tokens : List Token) : Canonical (ofTokens tokens) := by
  induction tokens with
  | nil => exact ⟨by simp, .nil⟩
  | cons token tokens ih => exact ih.consToken token

/-! ## Tokens behind others -/

/-- A token put in front of spans does not reach over a call. -/
theorem consToken_append_require (token : Token) (spans behind : List Span) (call : Call) :
    consToken token (spans ++ .require call :: behind) =
      consToken token spans ++ .require call :: behind := by
  cases token with
  | call other => rfl
  | char c =>
    cases spans with
    | nil => rfl
    | cons span spans => cases span <;> rfl

/-- A call divides the spans of the tokens around it. -/
theorem ofTokens_append_call (tokens more : List Token) (call : Call) :
    ofTokens (tokens ++ .call call :: more) =
      ofTokens tokens ++ .require call :: ofTokens more := by
  induction tokens with
  | nil => rfl
  | cons token tokens ih =>
    rw [List.cons_append, ofTokens_cons, ih, consToken_append_require, ofTokens_cons]

/-- Characters alone are one plain span, or none. -/
theorem ofTokens_map_char (text : Text) :
    ofTokens (text.map Token.char) = if text = [] then [] else [.plain text] := by
  induction text with
  | nil => rfl
  | cons c text ih =>
    rw [List.map_cons, ofTokens_cons, ih, if_neg (List.cons_ne_nil c text)]
    by_cases htext : text = []
    · rw [if_pos htext, htext]
      rfl
    · rw [if_neg htext]
      rfl

/-! ## Readers -/

/-- A script in the course of reading. -/
structure Reader where
  /-- The spans that are complete. -/
  spans : List Span := []
  /-- The plain text behind them, to which more may come. -/
  pending : Text := []
  deriving DecidableEq

namespace Reader

/-- The reader with its plain text completed.  Where there is none, there is nothing to complete. -/
def flush (r : Reader) : Reader :=
  if r.pending = [] then r else ⟨r.spans ++ [.plain r.pending], []⟩

/-- Takes text in as it is. -/
def copy (r : Reader) (text : Text) : Reader := { r with pending := r.pending ++ text }

/-- Takes a call in. -/
def add (r : Reader) (call : Call) : Reader :=
  { r.flush with spans := r.flush.spans ++ [.require call] }

/-- Takes a line in that is to be searched, from one call to the next. -/
def search (r : Reader) (rest : Text) : Reader :=
  match _h : Call.first? rest with
  | none => r.copy rest
  | some (front, call, behind) => ((r.copy front).add call).search behind
termination_by rest.length
decreasing_by exact Call.length_lt_of_first? _h

/-- Takes a piece in. -/
def push (r : Reader) : Piece → Reader
  | .line text => if isLineComment text then r.copy text else r.search text
  | .verbatim text => r.copy text

/-- The spans at the end of the script. -/
def finish (r : Reader) : List Span := r.flush.spans

/-- The spans of pieces that are read one after the other. -/
def ofPieces (pieces : List Piece) : List Span := (pieces.foldl push {}).finish

/-- A reader has read some tokens: the spans of these and of more tokens are its complete spans, and
behind them those of its plain text and of the other tokens. -/
def Reads (r : Reader) (tokens : List Token) : Prop :=
  ∀ more, Span.ofTokens (tokens ++ more) =
    r.spans ++ Span.ofTokens (r.pending.map Token.char ++ more)

variable {r : Reader}

/-- A new reader has read nothing. -/
theorem reads_nil : Reads {} [] := fun _ => rfl

/-- The complete spans of a reader that completes its plain text are all of its spans. -/
theorem spans_flush (r : Reader) :
    r.flush.spans = r.spans ++ Span.ofTokens (r.pending.map Token.char) := by
  rw [ofTokens_map_char, flush]
  by_cases hpending : r.pending = []
  · rw [if_pos hpending, if_pos hpending, List.append_nil]
  · rw [if_neg hpending, if_neg hpending]

/-- Behind completed plain text nothing is pending. -/
theorem pending_flush (r : Reader) : r.flush.pending = [] := by
  rw [flush]
  split
  · next hpending => exact hpending
  · rfl

/-- A text that is copied is read character by character. -/
theorem Reads.copy (h : r.Reads tokens) (text : Text) :
    (r.copy text).Reads (tokens ++ text.map Token.char) := by
  intro more
  rw [List.append_assoc, h, Reader.copy, List.map_append, List.append_assoc]

/-- A call that is taken in is read. -/
theorem Reads.add (h : r.Reads tokens) (call : Call) :
    (r.add call).Reads (tokens ++ [.call call]) := by
  intro more
  rw [List.append_assoc, h, List.singleton_append, ofTokens_append_call, Reader.add, pending_flush,
    spans_flush]
  simp

/-- A line that is searched is read. -/
theorem Reads.search (h : r.Reads tokens) (rest : Text) :
    (r.search rest).Reads (tokens ++ ScriptBundle.tokens rest) := by
  rw [Call.tokens_of_first? rest]
  -- on the calls of the line: behind each of them a shorter text is left
  fun_induction Reader.search r rest generalizing tokens with
  | case1 r rest hnone =>
    rw [hnone]
    exact h.copy rest
  | case2 r rest front call behind hsome ih =>
    rw [hsome]
    have hbehind := ih ((h.copy front).add call)
    rw [← Call.tokens_of_first? behind] at hbehind
    simpa using hbehind

/-- A piece that is taken in is read. -/
theorem Reads.push (h : r.Reads tokens) (piece : Piece) :
    (r.push piece).Reads (tokens ++ piece.tokens) := by
  cases piece with
  | verbatim text => exact h.copy text
  | line text =>
    rw [Reader.push, Piece.tokens]
    by_cases hcomment : isLineComment text = true
    · rw [if_pos hcomment, if_pos hcomment]
      exact h.copy text
    · rw [if_neg hcomment, if_neg hcomment]
      exact h.search text

/-- Pieces that are taken in one after the other are read. -/
theorem Reads.foldl_push (h : r.Reads tokens) (pieces : List Piece) :
    (pieces.foldl Reader.push r).Reads (tokens ++ pieces.flatMap Piece.tokens) := by
  induction pieces generalizing r tokens with
  | nil => simpa using h
  | cons piece pieces ih =>
    rw [List.foldl_cons, List.flatMap_cons, ← List.append_assoc]
    exact ih (h.push piece)

/-- At the end a reader has the spans of what it read. -/
theorem Reads.finish_eq (h : r.Reads tokens) : r.finish = Span.ofTokens tokens := by
  have hall := h []
  rw [List.append_nil, List.append_nil] at hall
  rw [finish, spans_flush, hall]

/-- Reading piece by piece gives the spans that the pieces have all together. -/
theorem ofPieces_eq (pieces : List Piece) : ofPieces pieces = Span.ofPieces pieces := by
  have hread := reads_nil.foldl_push pieces
  rw [List.nil_append] at hread
  exact hread.finish_eq

/-- Pieces that are read one after the other, lines and verbatim pieces in any order, come to the spans
that they have all together.  The spans are canonical, and make up the texts of the pieces.  The calls
among them come in the order of the text, and are those that stand in a line by itself which is no comment,
behind the pieces in front of it: so none stands in a verbatim piece or reaches over the end of a
line. -/
theorem ofPieces_exact (pieces : List Piece) :
    ofPieces pieces = Span.ofPieces pieces ∧
    (ofPieces pieces).flatMap text = pieces.flatMap Piece.text ∧
    Canonical (ofPieces pieces) ∧
    (calls (ofPieces pieces)).Pairwise (fun found next => found.1 + found.2.text.length ≤ next.1) ∧
    ∀ place call, (place, call) ∈ calls (ofPieces pieces) ↔
      ∃ front line back k, pieces = front ++ .line line :: back ∧ isLineComment line = false ∧
        place = (front.flatMap Piece.text).length + k ∧ call.StandsAt line k ∧
        k + call.text.length ≤ line.length := by
  have hcalls : calls (Span.ofPieces pieces) = Token.callsFrom 0 (pieces.flatMap Piece.tokens) :=
    callsFrom_ofTokens ..
  rw [ofPieces_eq, hcalls]
  refine ⟨rfl, text_ofPieces pieces, canonical_ofTokens _, Token.pairwise_callsFrom .., ?_⟩
  intro place call
  rw [Token.mem_callsFrom_pieces]
  constructor
  · rintro ⟨front, piece, back, hpieces, hcall⟩
    rw [Nat.zero_add] at hcall
    cases piece with
    | verbatim text =>
      rw [Piece.tokens, Token.callsFrom_map_char] at hcall
      cases hcall
    | line line =>
      obtain ⟨hcode, k, hplace, hk⟩ := Piece.mem_callsFrom_line.1 hcall
      have hstands := Call.standsAt_iff.2 hk
      exact ⟨front, line, back, k, hpieces, hcode, hplace, hstands, hstands.le_length⟩
  · rintro ⟨front, line, back, k, hpieces, hcode, hplace, hstands, -⟩
    refine ⟨front, .line line, back, hpieces, ?_⟩
    rw [Nat.zero_add]
    exact Piece.mem_callsFrom_line.2 ⟨hcode, k, hplace, Call.standsAt_iff.1 hstands⟩

/-- A call in a verbatim piece, one in a comment, and one that is cut in two: none of them is found. -/
example :
    ofPieces [.line "a = ".toList, .verbatim "require('b')".toList, .line "// require('c')".toList,
        .line "require(".toList, .line "'d') + require('e')".toList, .line ";".toList] =
      [.plain "a = require('b')// require('c')require('d') + ".toList,
        .require ⟨"e".toList, "require('e')".toList⟩, .plain ";".toList] := by
  decide +kernel

end Reader

end Span

end ScriptBundle
