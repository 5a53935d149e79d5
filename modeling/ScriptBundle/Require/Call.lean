/-
# Require calls

A script names the files it needs in calls such as `require("./part")`.  Only a call whose argument
is one quoted literal of path characters counts; everything else is plain text.

## Main content

- `Call.at?` reads a call at the head of a text; `Call.at?_eq_some_iff` gives its shape.
- `tokens` reads a whole text from left to right as calls and single characters;
  `tokens_of_call` and `tokens_of_none` are its two steps, and `text_tokens` says that nothing is
  lost.
- `containsCall` says whether a text has a call anywhere.
-/
import ScriptBundle.Text.Basic

namespace ScriptBundle

/-- A recognized call. -/
structure Call where
  /-- The quoted text that names the file. -/
  target : Text
  /-- The call as it is written, with a semicolon directly behind it. -/
  text : Text
  deriving DecidableEq

/-- The characters of a target: letters and digits of ASCII, dots, slashes, hyphens and
underscores. -/
def isTargetChar (c : Char) : Bool :=
  c.isAlphanum || c = '.' || c = '/' || c = '_' || c = '-'

/-- The characters that quote a target.  The two quotes of a call need not be alike. -/
def isQuote (c : Char) : Bool := c = '"' || c = '\''

namespace Call

/-- The word and bracket that open a call. -/
def opening : Text := ['r', 'e', 'q', 'u', 'i', 'r', 'e', '(']

/-- A call written with the given quotes around its target. -/
def write (left : Char) (target : Text) (right : Char) (semicolon : Bool) : Text :=
  opening ++ left :: target ++ [right, ')'] ++ (if semicolon then [';'] else [])

/-- The call at the head of a text. -/
def at? (s : Text) : Option Call :=
  match Text.after? opening s with
  | none | some [] => none
  | some (left :: quoted) =>
    match quoted.takeWhile isTargetChar, quoted.dropWhile isTargetChar with
    | target, right :: ')' :: rest =>
      if isQuote left ∧ target ≠ [] ∧ isQuote right then
        some ⟨target, write left target right (rest.head? = some ';')⟩
      else none
    | _, _ => none

/-- A quote is no target character. -/
theorem isTargetChar_of_isQuote {c : Char} (h : isQuote c) : isTargetChar c = false := by
  simp only [isQuote, Bool.or_eq_true, decide_eq_true_eq] at h
  rcases h with h | h <;> subst h <;> decide

/-- A call stands at the head of a text exactly if the text begins with the opening, a quote, a
target that is not empty, a quote and a bracket; a semicolon behind them belongs to the call. -/
theorem at?_eq_some_iff {s : Text} {call : Call} :
    at? s = some call ↔
      ∃ left right rest, isQuote left ∧ isQuote right ∧ call.target ≠ [] ∧
        (∀ c ∈ call.target, isTargetChar c) ∧
        s = opening ++ left :: call.target ++ [right, ')'] ++ rest ∧
        call.text = write left call.target right (rest.head? = some ';') := by
  constructor
  · intro h
    unfold at? at h
    split at h
    · contradiction
    · contradiction
    · next left quoted hopening =>
      split at h
      · next right rest hrest =>
        split at h
        · next hquotes =>
          obtain rfl := Option.some.inj h
          refine ⟨left, right, rest, hquotes.1, hquotes.2.2, hquotes.2.1, ?_, ?_, rfl⟩
          · exact List.all_eq_true.1 List.all_takeWhile
          · have hsplit := @List.takeWhile_append_dropWhile _ isTargetChar quoted
            rw [hrest] at hsplit
            rw [Text.after?_eq_some_iff.1 hopening]
            simp only [List.cons_append, List.append_assoc, List.nil_append, hsplit]
        · contradiction
      · contradiction
  · rintro ⟨left, right, rest, hleft, hright, hne, htarget, rfl, htext⟩
    have hopening : Text.after? opening (opening ++ left :: call.target ++ [right, ')'] ++ rest) =
        some (left :: (call.target ++ right :: ')' :: rest)) := by
      rw [Text.after?_eq_some_iff]
      simp
    have hstop : isTargetChar right = false := isTargetChar_of_isQuote hright
    have htake : (call.target ++ right :: ')' :: rest).takeWhile isTargetChar = call.target := by
      rw [List.takeWhile_append_of_pos htarget, List.takeWhile_cons_of_neg (by simp [hstop])]
      simp
    have hrest : (call.target ++ right :: ')' :: rest).dropWhile isTargetChar =
        right :: ')' :: rest := by
      rw [List.dropWhile_append_of_pos htarget, List.dropWhile_cons_of_neg (by simp [hstop])]
    unfold at?
    simp only [hopening, htake, hrest]
    rw [if_pos ⟨hleft, hne, hright⟩, ← htext]

/-- A call is the beginning of the text that it stands at the head of. -/
theorem text_append_drop {s : Text} {call : Call} (h : at? s = some call) :
    call.text ++ s.drop call.text.length = s := by
  obtain ⟨left, right, rest, -, -, -, -, rfl, htext⟩ := at?_eq_some_iff.1 h
  suffices ∃ tail, opening ++ left :: call.target ++ [right, ')'] ++ rest = call.text ++ tail by
    obtain ⟨tail, htail⟩ := this
    rw [htail]
    simp
  by_cases hsemi : rest.head? = some ';'
  · obtain ⟨tail, rfl⟩ : ∃ tail, rest = ';' :: tail := by
      cases rest with
      | nil => simp at hsemi
      | cons c tail => exact ⟨tail, by simpa using hsemi⟩
    exact ⟨tail, by simp [htext, write]⟩
  · exact ⟨rest, by simp [htext, write, hsemi]⟩

/-- A call has at least one character. -/
theorem text_ne_nil {s : Text} {call : Call} (h : at? s = some call) : call.text ≠ [] := by
  obtain ⟨left, right, rest, -, -, -, -, -, htext⟩ := at?_eq_some_iff.1 h
  rw [htext]
  simp [write, opening]

/-- What follows a call is shorter than the text that begins with it. -/
theorem length_drop_lt {s : Text} {call : Call} (h : at? s = some call) :
    (s.drop call.text.length).length < s.length := by
  have hlength := congrArg List.length (text_append_drop h)
  have hpos := List.length_pos_iff.2 (text_ne_nil h)
  rw [List.length_append] at hlength
  omega

end Call

/-! ## Reading a text as calls and characters -/

/-- A character, or a call read as one. -/
inductive Token where
  /-- A character outside of all calls. -/
  | char (c : Char)
  /-- A call. -/
  | call (call : Call)
  deriving DecidableEq

namespace Token

/-- What a token stands for in the text. -/
def text : Token → Text
  | .char c => [c]
  | .call found => found.text

/-- Whether a token is a call. -/
def isCall : Token → Bool
  | .char _ => false
  | .call _ => true

end Token

/-- Reads on after the tokens in `found`, newest first, passing over `skip` characters that belong to
the last call. -/
def tokensFrom (found : List Token) (skip : Nat) : Text → List Token
  | [] => found.reverse
  | c :: s =>
    match skip with
    | skip + 1 => tokensFrom found skip s
    | 0 =>
      match Call.at? (c :: s) with
      | some call => tokensFrom (.call call :: found) (call.text.length - 1) s
      | none => tokensFrom (.char c :: found) 0 s

/-- The tokens of a text: from left to right, every call that begins behind the one before it, and
the characters between them. -/
def tokens (s : Text) : List Token := tokensFrom [] 0 s

/-- Whether a text has a call anywhere. -/
def containsCall (s : Text) : Bool := (tokens s).any Token.isCall

/-- Passing over characters is dropping them. -/
theorem tokensFrom_skip (found : List Token) (skip : Nat) (s : Text) :
    tokensFrom found skip s = tokensFrom found 0 (s.drop skip) := by
  induction s generalizing skip with
  | nil => simp [tokensFrom]
  | cons c s ih =>
    cases skip with
    | zero => rfl
    | succ skip => exact ih skip

/-- The tokens found so far come before the others. -/
theorem tokensFrom_found (found : List Token) (skip : Nat) (s : Text) :
    tokensFrom found skip s = found.reverse ++ tokensFrom [] skip s := by
  induction s generalizing found skip with
  | nil => simp [tokensFrom]
  | cons c s ih =>
    cases skip with
    | succ skip => exact ih found skip
    | zero =>
      simp only [tokensFrom]
      split
      · rw [ih, ih [_]]; simp
      · rw [ih, ih [_]]; simp

@[simp] theorem tokens_nil : tokens [] = [] := rfl

/-- A call at the head of a text is its first token. -/
theorem tokens_of_call {s : Text} {call : Call} (h : Call.at? s = some call) :
    tokens s = .call call :: tokens (s.drop call.text.length) := by
  cases s with
  | nil => exact absurd h nofun
  | cons c s =>
    have hlength : call.text.length = (call.text.length - 1) + 1 := by
      have := List.length_pos_iff.2 (Call.text_ne_nil h)
      omega
    rw [tokens, tokensFrom]
    simp only [h]
    rw [tokensFrom_found, tokensFrom_skip, hlength]
    rfl

/-- Where no call stands, the first token is the first character. -/
theorem tokens_of_none {c : Char} {s : Text} (h : Call.at? (c :: s) = none) :
    tokens (c :: s) = .char c :: tokens s := by
  rw [tokens, tokensFrom]
  simp only [h]
  rw [tokensFrom_found]
  rfl

/-- The texts of the tokens make up the text. -/
theorem text_tokens (s : Text) : (tokens s).flatMap Token.text = s := by
  match h : Call.at? s with
  | some call =>
    rw [tokens_of_call h, List.flatMap_cons, text_tokens (s.drop call.text.length), Token.text]
    exact Call.text_append_drop h
  | none =>
    match s with
    | [] => rfl
    | c :: s =>
      rw [tokens_of_none h, List.flatMap_cons, text_tokens s, Token.text]
      rfl
termination_by s.length
decreasing_by
  · exact Call.length_drop_lt h
  · simp

end ScriptBundle
