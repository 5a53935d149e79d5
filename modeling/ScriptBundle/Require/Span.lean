/-
# Spans of a script

A script is read line by line.  The reading gives a list of spans: plain text and require calls.
Comment lines and verbatim pieces are never searched for calls.

## Main content

- `Span.ofTokens` merges neighbouring characters into one plain span.
- `Span.ofText` reads a whole text, `Span.ofPieces` a list of lines and verbatim pieces.
- `text_ofPieces` and `text_ofText`: the texts of the spans make up what was read.
-/
import ScriptBundle.Require.Call
import ScriptBundle.Text.Blank

namespace ScriptBundle

/-- A part of a script that was read. -/
inductive Span where
  /-- Text without calls. -/
  | plain (text : Text)
  /-- A require call. -/
  | require (call : Call)
  deriving DecidableEq

namespace Span

/-- The script text that a span stands for. -/
def text : Span → Text
  | .plain text => text
  | .require call => call.text

/-- Puts a token in front of spans; a character joins the plain text behind it. -/
def consToken : Token → List Span → List Span
  | .char c, .plain text :: spans => .plain (c :: text) :: spans
  | .char c, spans => .plain [c] :: spans
  | .call call, spans => .require call :: spans

/-- The spans of a list of tokens. -/
def ofTokens (tokens : List Token) : List Span := tokens.foldr consToken []

@[simp] theorem ofTokens_nil : ofTokens [] = [] := rfl

@[simp] theorem ofTokens_cons (token : Token) (tokens : List Token) :
    ofTokens (token :: tokens) = consToken token (ofTokens tokens) := rfl

/-- A token put in front shows in front of the text. -/
theorem text_consToken (token : Token) (spans : List Span) :
    (consToken token spans).flatMap text = token.text ++ spans.flatMap text := by
  cases token with
  | call call => rfl
  | char c =>
    cases spans with
    | nil => rfl
    | cons span spans => cases span <;> rfl

/-- Merging keeps the text. -/
theorem text_ofTokens (tokens : List Token) :
    (ofTokens tokens).flatMap text = tokens.flatMap Token.text := by
  induction tokens with
  | nil => rfl
  | cons token tokens ih => rw [ofTokens_cons, text_consToken, ih, List.flatMap_cons]

end Span

/-! ## Pieces -/

/-- Whether a line is a line comment: after blanks it begins with two slashes. -/
def isLineComment (line : Text) : Bool := ['/', '/'].isPrefixOf (Text.trimStart line)

/-- A piece of script that is to be read. -/
inductive Piece where
  /-- A line, which is searched for calls unless it is a comment. -/
  | line (text : Text)
  /-- Text that is never searched. -/
  | verbatim (text : Text)
  deriving DecidableEq

namespace Piece

/-- The text of a piece. -/
def text : Piece → Text
  | .line text => text
  | .verbatim text => text

/-- The tokens of a piece.  Each piece is read on its own. -/
def tokens : Piece → List Token
  | .line text => if isLineComment text then text.map Token.char else ScriptBundle.tokens text
  | .verbatim text => text.map Token.char

/-- The tokens of a piece make up its text. -/
theorem text_tokens (piece : Piece) : piece.tokens.flatMap Token.text = piece.text := by
  have chars (s : Text) : (s.map Token.char).flatMap Token.text = s := by
    induction s with
    | nil => rfl
    | cons c s ih => rw [List.map_cons, List.flatMap_cons, ih]; rfl
  cases piece with
  | verbatim text => exact chars text
  | line text =>
    simp only [tokens]
    split
    · exact chars text
    · exact ScriptBundle.text_tokens text

end Piece

/-! ## Reading scripts -/

namespace Span

/-- The spans of a list of pieces. -/
def ofPieces (pieces : List Piece) : List Span := ofTokens (pieces.flatMap Piece.tokens)

/-- The spans of a text, read line by line. -/
def ofText (s : Text) : List Span := ofPieces ((Text.lines s).map Piece.line)

/-- Reading keeps the text of all pieces. -/
theorem text_ofPieces (pieces : List Piece) :
    (ofPieces pieces).flatMap text = pieces.flatMap Piece.text := by
  rw [ofPieces, text_ofTokens, List.flatMap_assoc]
  simp only [Piece.text_tokens]

/-- Reading keeps the text. -/
theorem text_ofText (s : Text) : (ofText s).flatMap text = s := by
  rw [ofText, text_ofPieces, List.flatMap_map]
  exact List.flatMap_id.trans (Text.flatten_lines s)

end Span

end ScriptBundle
