/-
# Texts that show where they end

When texts are written one behind the other, it takes a rule to see where each of them ends.  A number
ends in front of the first character that is no digit, other texts in front of the first place of a
mark.  A list ends where something else than a separator stands behind an element.

## Main content

- `Text.Delimited` says that a way of writing shows where a value ends and which value it is.
- `Text.ofNat_append_inj` and `Text.append_mark_inj`: this holds of numbers, and of texts in front of a
  mark that they do not contain.
- `Text.Delimited.join`: it holds of lists if it holds of their elements.
-/
import Mathlib.Data.List.Forall2
import ScriptBundle.Text.Basic

namespace ScriptBundle

namespace Text

/-! ## Values that can be told apart -/

/-- What is written shows where it ends: if two values of the kind `Good` give the same text, each with
something behind it that may stand there, then the values are alike and the same stands behind them. -/
def Delimited {α : Type} (write : α → Text) (Good : α → Prop) (MayFollow : Text → Prop)
    (Alike : α → α → Prop) : Prop :=
  ∀ ⦃a b : α⦄ ⦃rest rest' : Text⦄, Good a → Good b → MayFollow rest → MayFollow rest' →
    write a ++ rest = write b ++ rest' → Alike a b ∧ rest = rest'

/-! ## Numbers -/

/-- A text does not begin with a digit. -/
def BeginsWithoutDigit (s : Text) : Prop := ∀ c ∈ s.head?, c.isDigit = false

/-- Numbers with the same digits are the same. -/
theorem ofNat_injective {n k : Nat} (h : ofNat n = ofNat k) : n = k := by
  calc
    n = Nat.ofDigitChars 10 (ofNat n) 0 := Nat.ofDigitChars_ten_toDigits.symm
    _ = Nat.ofDigitChars 10 (ofNat k) 0 := by rw [h]
    _ = k := Nat.ofDigitChars_ten_toDigits

/-- The digits in front of a text without a digit are those of the number. -/
theorem takeWhile_ofNat_append (n : Nat) {rest : Text} (h : BeginsWithoutDigit rest) :
    (ofNat n ++ rest).takeWhile Char.isDigit = ofNat n := by
  have hdigits : ∀ c ∈ ofNat n, c.isDigit = true := fun c hc =>
    Nat.isDigit_of_mem_toDigits (by decide) (by decide) hc
  have hrest : rest.takeWhile Char.isDigit = [] := by
    cases rest with
    | nil => rfl
    | cons c rest => rw [List.takeWhile_cons, h c rfl, if_neg Bool.false_ne_true]
  rw [List.takeWhile_append_of_pos hdigits, hrest, List.append_nil]

/-- A number ends in front of the first character that is no digit. -/
theorem ofNat_append_inj {n k : Nat} {rest rest' : Text} (hrest : BeginsWithoutDigit rest)
    (hrest' : BeginsWithoutDigit rest') (h : ofNat n ++ rest = ofNat k ++ rest') :
    n = k ∧ rest = rest' := by
  have hdigits : ofNat n = ofNat k := by
    rw [← takeWhile_ofNat_append n hrest, h, takeWhile_ofNat_append k hrest']
  rw [hdigits] at h
  exact ⟨ofNat_injective hdigits, List.append_cancel_left h⟩

/-! ## Texts in front of a mark -/

/-- If a text begins with all but the first character of a mark, and the mark follows on what is in
front, then its first character comes again in it, or the mark stands in the text. -/
theorem mark_infix_of_eq {c : Char} {tail s rest rest' : Text} (hc : c ∉ tail)
    (h : tail ++ rest = s ++ (c :: tail ++ rest')) : c :: tail <:+: c :: s := by
  rcases List.append_eq_append_iff.1 h with ⟨more, rfl, -⟩ | ⟨more, rfl, hmore⟩
  · exact List.IsPrefix.isInfix ⟨more, rfl⟩
  · cases more with
    | nil => exact ⟨[], [], by simp⟩
    | cons d more =>
      obtain rfl : c = d := (List.cons.inj hmore).1
      exact absurd (List.mem_append_right s (List.mem_cons_self ..)) hc

/-- A text ends in front of the first place of a mark, if the first character of the mark does not
come again in it. -/
theorem append_mark_inj (c : Char) (tail : Text) {s s' rest rest' : Text} (hc : c ∉ tail)
    (hs : ¬ c :: tail <:+: s) (hs' : ¬ c :: tail <:+: s')
    (h : s ++ (c :: tail ++ rest) = s' ++ (c :: tail ++ rest')) : s = s' ∧ rest = rest' := by
  induction s generalizing s' with
  | nil =>
    cases s' with
    | nil => exact ⟨rfl, List.append_cancel_left h⟩
    | cons d s' =>
      obtain ⟨rfl, hrest⟩ := List.cons.inj h
      exact absurd (mark_infix_of_eq hc hrest) hs'
  | cons d s ih =>
    cases s' with
    | nil =>
      obtain ⟨rfl, hrest⟩ := List.cons.inj h
      exact absurd (mark_infix_of_eq hc hrest.symm) hs
    | cons d' s' =>
      obtain ⟨rfl, hrest⟩ := List.cons.inj h
      obtain ⟨rfl, hsame⟩ := ih (fun hin => hs (hin.trans (List.suffix_cons d s).isInfix))
        (fun hin => hs' (hin.trans (List.suffix_cons d s').isInfix)) hrest
      exact ⟨rfl, hsame⟩

/-! ## Lists -/

/-- What stands behind the first element of a list: the others, or what ends the list. -/
theorem join_cons_append (separator stop text : Text) (texts : List Text) :
    join separator (text :: texts) ++ stop =
      text ++ if texts = [] then stop else separator ++ (join separator texts ++ stop) := by
  cases texts with
  | nil => simp [join]
  | cons next texts => simp [join]

/-- A list of values shows where it ends if its elements do, and if what ends the list is neither the
beginning of an element nor a separator. -/
theorem Delimited.join {α : Type} {write : α → Text} {Good : α → Prop} {MayFollow : Text → Prop}
    {Alike : α → α → Prop} (h : Delimited write Good MayFollow Alike) (separator stop : Text)
    (hseparator : ∀ rest, MayFollow (separator ++ rest)) (hstop : ∀ rest, MayFollow (stop ++ rest))
    (hdiffer : ∀ rest rest', separator ++ rest ≠ stop ++ rest')
    (hfirst : ∀ a rest rest', write a ++ rest ≠ stop ++ rest') :
    Delimited (fun as => Text.join separator (as.map write) ++ stop) (fun as => ∀ a ∈ as, Good a)
      (fun _ => True) (List.Forall₂ Alike) := by
  intro as bs rest rest' has hbs _ _ heq
  simp only [List.append_assoc] at heq
  induction as generalizing bs with
  | nil =>
    cases bs with
    | nil => exact ⟨.nil, List.append_cancel_left heq⟩
    | cons b bs =>
      rw [List.map_cons, join_cons_append] at heq
      exact absurd heq.symm (hfirst b _ _)
  | cons a as ih =>
    cases bs with
    | nil =>
      rw [List.map_cons, join_cons_append] at heq
      exact absurd heq (hfirst a _ _)
    | cons b bs =>
      rw [List.map_cons, List.map_cons, join_cons_append, join_cons_append] at heq
      have hfollow (texts : List Text) (t : Text) :
          MayFollow (if texts = [] then stop ++ t
            else separator ++ (Text.join separator texts ++ (stop ++ t))) := by
        split
        · exact hstop t
        · exact hseparator _
      obtain ⟨hab, hbehind⟩ := h (has a (List.mem_cons_self ..)) (hbs b (List.mem_cons_self ..))
        (hfollow _ _) (hfollow _ _) heq
      -- either both lists end here, or both go on behind a separator
      by_cases hnil : as = []
      · by_cases hnil' : bs = []
        · subst hnil hnil'
          exact ⟨.cons hab .nil, List.append_cancel_left hbehind⟩
        · rw [if_pos (by simp [hnil]), if_neg (by simpa using hnil')] at hbehind
          exact absurd hbehind.symm (hdiffer _ _)
      · by_cases hnil' : bs = []
        · rw [if_neg (by simpa using hnil), if_pos (by simp [hnil'])] at hbehind
          exact absurd hbehind (hdiffer _ _)
        · rw [if_neg (by simpa using hnil), if_neg (by simpa using hnil')] at hbehind
          obtain ⟨hrest, hsame⟩ := ih (fun a ha => has a (List.mem_cons_of_mem _ ha))
            (fun b hb => hbs b (List.mem_cons_of_mem _ hb)) (List.append_cancel_left hbehind)
          exact ⟨.cons hab hrest, hsame⟩

end Text

end ScriptBundle
