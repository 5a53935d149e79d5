/-
# Calls behind template options

If templates are compiled, a call directly behind the words of a template option stands for the
template and is not followed.  In a text where no call stands there, all calls are followed, whether
templates are compiled or not; and the text stays so if more text is put between its parts.

## Main content

- `Token.OptionFree` says that no call stands directly behind the words of a template option;
  `OptionFree.insert` puts text in between.
- `Part.ofSpans_of_optionFree`: then all calls are followed.
- `Span.filterMap_call?_ofTokens`: the calls among the spans are those among the tokens, in order.
-/
import ScriptBundle.Proofs.Require.Recognized

namespace ScriptBundle

/-! ## Calls in order -/

/-- The call that a token is, if it is one. -/
def Token.call? : Token → Option Call
  | .char _ => none
  | .call found => some found

/-- The call that a span is, if it is one. -/
def Span.call? : Span → Option Call
  | .plain _ => none
  | .require found => some found

/-- The calls among the spans are those among the tokens, in the same order. -/
theorem Span.filterMap_call?_ofTokens (tokens : List Token) :
    (ofTokens tokens).filterMap call? = tokens.filterMap Token.call? := by
  induction tokens with
  | nil => rfl
  | cons token tokens ih =>
    rw [ofTokens_cons]
    cases token with
    | call found => exact congrArg (found :: ·) ih
    | char c =>
      rw [List.filterMap_cons_none (show Token.call? (.char c) = none from rfl), ← ih]
      cases ofTokens tokens with
      | nil => rfl
      | cons span spans => cases span <;> rfl

/-- There are no calls among characters. -/
theorem Token.filterMap_call?_map_char (s : Text) : (s.map char).filterMap call? = [] := by
  rw [List.filterMap_map, List.filterMap_eq_nil_iff]
  intro c _
  rfl

/-! ## Spans taken apart -/

namespace Span

variable {tokens : List Token} {spans : List Span} {text : Text} {call : Call}

/-- The first span is a call if the first token is. -/
theorem exists_of_ofTokens_eq_require (h : ofTokens tokens = .require call :: spans) :
    ∃ rest, tokens = .call call :: rest ∧ ofTokens rest = spans := by
  cases tokens with
  | nil => cases h
  | cons token tokens =>
    rw [ofTokens_cons] at h
    cases token with
    | call other =>
      cases h
      exact ⟨tokens, rfl, rfl⟩
    | char c =>
      cases hspans : ofTokens tokens with
      | nil =>
        rw [hspans] at h
        cases h
      | cons span rest =>
        rw [hspans] at h
        cases span <;> cases h

/-- The first span is plain text if the first tokens are its characters. -/
theorem exists_of_ofTokens_eq_plain (h : ofTokens tokens = .plain text :: spans) :
    ∃ rest, tokens = text.map Token.char ++ rest ∧ ofTokens rest = spans := by
  induction tokens generalizing text with
  | nil => cases h
  | cons token tokens ih =>
    rw [ofTokens_cons] at h
    cases token with
    | call other => cases h
    | char c =>
      cases hspans : ofTokens tokens with
      | nil =>
        rw [hspans] at h
        cases h
        exact ⟨tokens, rfl, hspans⟩
      | cons span rest =>
        rw [hspans] at h
        cases span with
        | require other =>
          cases h
          exact ⟨tokens, rfl, hspans⟩
        | plain behind =>
          cases h
          obtain ⟨others, rfl, hothers⟩ := ih hspans
          exact ⟨others, rfl, hothers⟩

end Span

/-! ## No call behind an option -/

namespace Token

variable {tokens front back : List Token}

/-- No call stands directly behind the words of a template option. -/
def OptionFree (tokens : List Token) : Prop :=
  ∀ front call back, tokens = front ++ .call call :: back →
    ¬ Part.templateOption.map char <:+ front

/-- Whether a call stands behind an option can be decided position by position. -/
instance (tokens : List Token) : Decidable (OptionFree tokens) :=
  decidable_of_iff
    (∀ i : Fin tokens.length, tokens[i].call?.isSome →
      ¬ Part.templateOption.map char <:+ tokens.take i) <| by
    constructor
    · rintro h front call back rfl
      simpa [call?] using h ⟨front.length, by simp⟩
    · intro h i hcall
      obtain ⟨call, hi⟩ : ∃ call, tokens[i] = .call call := by
        cases hi : tokens[i] with
        | char c =>
          rw [hi] at hcall
          cases hcall
        | call call => exact ⟨call, rfl⟩
      refine h (tokens.take i) call (tokens.drop (i + 1)) ?_
      rw [← hi]
      exact (List.take_append_drop ↑i tokens).symm.trans
        (congrArg _ (List.drop_eq_getElem_cons i.isLt))

/-- A part at the end of tokens without calls behind options has none either. -/
theorem OptionFree.of_append (h : OptionFree (front ++ tokens)) : OptionFree tokens := by
  rintro before call back rfl hsuffix
  exact h (front ++ before) call back (List.append_assoc ..).symm
    (hsuffix.trans (List.suffix_append ..))

/-- What ends behind an element, and does not have it, stands behind it. -/
theorem suffix_of_suffix_append_cons {α : Type} {wanted a b : List α} {x : α}
    (h : wanted <:+ a ++ x :: b) (hx : x ∉ wanted) : wanted <:+ b := by
  rcases Nat.lt_or_ge b.length wanted.length with hlt | hle
  · have hmem := List.suffix_of_suffix_length_le (List.suffix_append a (x :: b)) h hlt
    exact absurd (hmem.subset (List.mem_cons_self ..)) hx
  · exact List.suffix_of_suffix_length_le h
      ((List.suffix_cons x b).trans (List.suffix_append ..)) hle

/-- Text that ends with a comma can be put between tokens without calls behind options. -/
theorem OptionFree.insert (h : OptionFree front) (h' : OptionFree back) (s : Text) :
    OptionFree (front ++ ((s ++ [',']).map char ++ back)) := by
  have hcomma : char ',' ∉ Part.templateOption.map char := by decide
  rintro before call behind heq hsuffix
  have hnone : .call call ∉ (s ++ [',']).map char := call_not_mem_map_char _
  -- the call stands behind the text or in front of it, and no option reaches over the comma
  rcases List.append_eq_append_iff.1 heq with ⟨middle, rfl, hmiddle⟩ | ⟨middle, hfront, hmiddle⟩
  · rcases List.append_eq_append_iff.1 hmiddle with ⟨rest, rfl, hback⟩ | ⟨rest, htext, hback⟩
    · refine h' rest call behind hback ?_
      rw [List.map_append, List.append_assoc, ← List.append_assoc] at hsuffix
      exact suffix_of_suffix_append_cons hsuffix hcomma
    · cases rest with
      | nil =>
        refine h' [] call behind hback.symm ?_
        rw [List.append_nil] at htext
        rw [← htext, List.map_append, ← List.append_assoc] at hsuffix
        exact suffix_of_suffix_append_cons hsuffix hcomma
      | cons token rest =>
        obtain ⟨rfl, -⟩ := List.cons.inj hback
        exact hnone (htext ▸ List.mem_append_right _ (List.mem_cons_self ..))
  · cases middle with
    | nil =>
      obtain ⟨token, rest, htext⟩ : ∃ token rest, (s ++ [',']).map char = token :: rest :=
        List.exists_cons_of_ne_nil (by simp)
      rw [htext] at hmiddle hnone
      obtain ⟨rfl, -⟩ := List.cons.inj hmiddle
      exact hnone (List.mem_cons_self ..)
    | cons token middle =>
      obtain ⟨rfl, -⟩ := List.cons.inj hmiddle
      exact h before call middle hfront hsuffix

end Token

namespace Part

variable {compiling : Bool} {spans : List Span}

/-- If no call stands behind a template option, all calls are followed. -/
theorem ofSpans_of_optionFree {tokens : List Token} (h : Token.OptionFree tokens) :
    ofSpans compiling (Span.ofTokens tokens) = (Span.ofTokens tokens).map ofSpan := by
  generalize hspans : Span.ofTokens tokens = spans
  fun_induction ofSpans compiling spans generalizing tokens with
  | case1 => rfl
  | case2 text call spans front hfront ih =>
    exfalso
    obtain ⟨rest, rfl, hrest⟩ := Span.exists_of_ofTokens_eq_plain hspans
    obtain ⟨back, rfl, -⟩ := Span.exists_of_ofTokens_eq_require hrest
    split at hfront
    · rw [before?_eq_some_iff] at hfront
      refine h _ call back rfl ?_
      rw [hfront, List.map_append]
      exact List.suffix_append ..
    · cases hfront
  | case3 text call spans hnone ih =>
    obtain ⟨rest, rfl, hrest⟩ := Span.exists_of_ofTokens_eq_plain hspans
    obtain ⟨back, rfl, hback⟩ := Span.exists_of_ofTokens_eq_require hrest
    rw [← List.singleton_append, ← List.append_assoc] at h
    rw [ih h.of_append hback]
    rfl
  | case4 text spans hother ih =>
    obtain ⟨rest, rfl, hrest⟩ := Span.exists_of_ofTokens_eq_plain hspans
    rw [ih h.of_append hrest]
    rfl
  | case5 call spans ih =>
    obtain ⟨back, rfl, hback⟩ := Span.exists_of_ofTokens_eq_require hspans
    rw [← List.singleton_append] at h
    rw [ih h.of_append hback]
    rfl

end Part

end ScriptBundle
