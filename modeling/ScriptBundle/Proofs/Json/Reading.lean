/-
# Reading JSON values

Every value is read as the grammar writes it, however deeply it is nested, and what stands behind it
is left.

## Main content

- `Json.Phrase.IsRead` says what reading a phrase of the grammar gives; `Json.Writes.isRead` is the
  induction over the grammar, with one lemma for each way to write a phrase.
- `Json.ofSymbols?_of_writes`: a text is read as the value that it is written for.
- `Json.ofSymbols?_append_eq_none`: an object with something behind it is not read.
-/
import ScriptBundle.Proofs.Json.Lexical

namespace ScriptBundle

namespace Json

variable {s t : Text} {v : Json} {rest : Symbols}

/-! ## Blanks in front -/

/-- A value may have blanks in front. -/
theorem readValue_skipBlanks (depth : Nat) (rest : Symbols) :
    readValue depth (skipBlanks rest) = readValue depth rest := by
  cases depth with
  | zero => rfl
  | succ depth => rw [readValue, readValue, skipBlanks_skipBlanks]

/-- A value may have blanks in front. -/
theorem readValue_append (h : IsBlank s) (depth : Nat) (rest : Symbols) :
    readValue depth (s.map some ++ rest) = readValue depth rest := by
  rw [← readValue_skipBlanks, skipBlanks_append h, readValue_skipBlanks]

/-- The values of a list may have blanks in front. -/
theorem readElements_skipBlanks (depth limit : Nat) (rest : Symbols) :
    readElements (readValue depth) limit (skipBlanks rest) =
      readElements (readValue depth) limit rest := by
  cases limit with
  | zero => rfl
  | succ limit => rw [readElements, readElements, readValue_skipBlanks]

/-- The members of an object may have blanks in front. -/
theorem readMembers_skipBlanks (depth limit : Nat) (rest : Symbols) :
    readMembers (readValue depth) limit (skipBlanks rest) =
      readMembers (readValue depth) limit rest := by
  cases limit with
  | zero => rfl
  | succ limit => rw [readMembers, readMembers, skipBlanks_skipBlanks]

/-! ## What phrases begin with -/

/-- A value begins with a character that is neither a blank nor a closing bracket. -/
theorem Writes.exists_cons (h : Writes (.value v) s) :
    ∃ c t, s = c :: t ∧ isJsonBlank (some c) = false ∧ c ≠ ']' := by
  cases h with
  | nullWord => exact ⟨'n', _, rfl, rfl, by decide⟩
  | trueWord => exact ⟨'t', _, rfl, rfl, by decide⟩
  | falseWord => exact ⟨'f', _, rfl, rfl, by decide⟩
  | number h =>
    obtain ⟨c, t, rfl, hc⟩ := h.exists_cons
    refine ⟨c, t, rfl, ?_, ?_⟩
    · simp only [isJsonBlank, Bool.or_eq_false_iff, decide_eq_false_iff_not, Option.some.injEq]
      refine ⟨⟨⟨?_, ?_⟩, ?_⟩, ?_⟩ <;> rintro rfl <;> rcases hc with hc | hc <;> cases hc
    · rintro rfl
      rcases hc with hc | hc <;> cases hc
  | string _ => exact ⟨'"', _, rfl, rfl, by decide⟩
  | emptyArray _ => exact ⟨'[', _, rfl, rfl, by decide⟩
  | array _ => exact ⟨'[', _, rfl, rfl, by decide⟩
  | emptyObject _ => exact ⟨'{', _, rfl, rfl, by decide⟩
  | object _ => exact ⟨'{', _, rfl, rfl, by decide⟩

/-- A value with blanks around it does not begin with the end of a list. -/
theorem Writes.skipBlanks_item (h : Writes (.item v) s) (rest : Symbols) :
    ∃ c t, skipBlanks (s.map some ++ rest) = some c :: t ∧ c ≠ ']' := by
  cases h with
  | item hfront h hback =>
    obtain ⟨c, u, rfl, hblank, hc⟩ := h.exists_cons
    rw [List.map_append, List.append_assoc, skipBlanks_append hfront]
    exact ⟨c, _, skipBlanks_cons hblank _, hc⟩

/-- The values of a list do not begin with the end of the list. -/
theorem Writes.skipBlanks_elements {values : List Json} (h : Writes (.elements values) s)
    (rest : Symbols) :
    ∃ c t, skipBlanks (s.map some ++ rest) = some c :: t ∧ c ≠ ']' := by
  cases h with
  | lastElement h => exact h.skipBlanks_item rest
  | element h _ =>
    rw [List.map_append, List.append_assoc]
    exact h.skipBlanks_item _

/-! ## Reading phrases -/

/-- What stands behind a value does not go on with it.  A number is the only value that something can
go on with. -/
def Ends (v : Json) (rest : Symbols) : Prop := v = .number → BeginsNot isNumberChar rest

/-- Reading a phrase gives what it is written for, whatever stands behind it, if the depth and the
limit of the reader are not below its length. -/
def Phrase.IsRead : Phrase → Text → Prop
  | .value v, s => ∀ depth rest, s.length ≤ depth → Ends v rest →
    readValue depth (s.map some ++ rest) = some (v, rest)
  | .item v, s => ∀ depth rest, s.length ≤ depth → Ends v rest →
    ∃ back, IsBlank back ∧
      readValue depth (s.map some ++ rest) = some (v, back.map some ++ rest)
  | .elements vs, s => ∀ depth limit rest, s.length ≤ depth → s.length ≤ limit →
    readElements (readValue depth) limit (s.map some ++ some ']' :: rest) = some (vs, rest)
  | .members ms, s => ∀ depth limit rest, s.length ≤ depth → s.length ≤ limit →
    readMembers (readValue depth) limit (s.map some ++ some '}' :: rest) = some (ms, rest)

/-- A character that cannot go on with a number ends every value. -/
theorem Ends.cons {c : Char} (h : isNumberChar c = false) (rest : Symbols) :
    Ends v (some c :: rest) := by
  intro _ d hd
  cases Option.some.inj (Option.some.inj hd)
  exact h

/-- Blanks do not go on with a value. -/
theorem Ends.append (h : IsBlank s) (hrest : Ends v rest) : Ends v (s.map some ++ rest) := by
  cases s with
  | nil => exact hrest
  | cons c s =>
    have hnone : [' ', '\t', '\n', '\r'].any isNumberChar = false := by decide
    have hc := List.any_eq_false.1 hnone c (h c (List.mem_cons_self ..))
    exact .cons (Bool.not_eq_true _ ▸ hc) _

/-- The first character of a value takes one level of the depth. -/
theorem isRead_cons {c : Char} (h : ∀ depth rest, s.length ≤ depth → Ends v rest →
      readValue (depth + 1) (some c :: (s.map some ++ rest)) = some (v, rest)) :
    Phrase.IsRead (.value v) (c :: s) := by
  intro depth rest hdepth hrest
  cases depth with
  | zero => cases hdepth
  | succ depth => exact h depth rest (Nat.le_of_succ_le_succ hdepth) hrest

/-- A value between two characters. -/
theorem isRead_enclosed {opening closing : Char} (h : ∀ depth rest, s.length ≤ depth →
      readValue (depth + 1) (some opening :: (s.map some ++ some closing :: rest)) =
        some (v, rest)) :
    Phrase.IsRead (.value v) (opening :: (s ++ [closing])) := by
  apply isRead_cons
  intro depth rest hdepth _
  rw [List.length_append, List.length_singleton] at hdepth
  rw [List.map_append, List.append_assoc]
  exact h depth rest (by omega)

/-- A value is read with the blanks in front of it. -/
theorem isRead_item {front back : Text} (hfront : IsBlank front)
    (h : Phrase.IsRead (.value v) s) (hback : IsBlank back) :
    Phrase.IsRead (.item v) (front ++ (s ++ back)) := by
  intro depth rest hdepth hrest
  simp only [List.length_append] at hdepth
  refine ⟨back, hback, ?_⟩
  simp only [List.map_append, List.append_assoc]
  rw [readValue_append hfront]
  exact h depth _ (by omega) (hrest.append hback)

/-! ## Words, numbers and strings -/

/-- A fixed word is read. -/
theorem word?_append (word : Text) (rest : Symbols) :
    word? word (word.map some ++ rest) = some rest := by
  have hprefix : (word.map some).isPrefixOf (word.map some ++ rest) = true :=
    List.isPrefixOf_iff_prefix.2 (List.prefix_append _ _)
  simp [word?, hprefix]

/-- The words are read. -/
theorem isRead_word {first : Char} {word : Text}
    (h : ∀ depth rest, readValue (depth + 1) (some first :: rest) =
      (word? word rest).bind fun rest => some (v, rest)) :
    Phrase.IsRead (.value v) (first :: word) := by
  apply isRead_cons
  intro depth rest _ _
  rw [h, word?_append]
  rfl

/-- What begins with no quote, bracket or letter can only be a number. -/
theorem readValue_of_not_mem {c : Char} (hc : c ∉ ['"', '[', '{', 't', 'f', 'n'])
    (hblank : isJsonBlank (some c) = false) (depth : Nat) (rest : Symbols) :
    readValue (depth + 1) (some c :: rest) =
      (number? (some c :: rest)).map fun rest => (.number, rest) := by
  simp only [List.mem_cons, List.not_mem_nil, or_false, not_or] at hc
  rw [readValue, skipBlanks_cons hblank]
  split
  case h_7 =>
    cases number? (some c :: rest) <;> rfl
  all_goals simp_all

/-- Numbers are read. -/
theorem isRead_number (h : IsNumber s) : Phrase.IsRead (.value .number) s := by
  obtain ⟨c, t, hs, hblank, -⟩ := (Writes.number h).exists_cons
  obtain ⟨c', t', hs', hc⟩ := h.exists_cons
  cases hs.symm.trans hs'
  subst hs
  have hletter : c ∉ ['"', '[', '{', 't', 'f', 'n'] := by
    intro hmem
    have hdigits : ['"', '[', '{', 't', 'f', 'n'].any Char.isDigit = false := by decide
    rcases hc with rfl | hc
    · revert hmem
      decide
    · exact List.any_eq_false.1 hdigits c hmem hc
  apply isRead_cons
  intro depth rest _ hrest
  have hread := number?_of_isNumber h (hrest rfl)
  rw [List.map_cons, List.cons_append] at hread
  rw [readValue_of_not_mem hletter hblank, hread]
  rfl

/-- Strings are read. -/
theorem isRead_string {units : List JsonUnit} (h : WritesUnits units s) :
    Phrase.IsRead (.value (.string units)) ('"' :: (s ++ ['"'])) := by
  apply isRead_enclosed
  intro depth rest _
  rw [readValue, skipBlanks_cons (by decide)]
  show (readString [] (s.map some ++ some '"' :: rest) >>= _) = _
  rw [readString_of_writesUnits h]
  rfl

/-! ## Lists -/

/-- A list without a value is read. -/
theorem isRead_emptyArray (h : IsBlank s) :
    Phrase.IsRead (.value (.array [])) ('[' :: (s ++ [']'])) := by
  apply isRead_enclosed
  intro depth rest _
  rw [readValue, skipBlanks_cons (by decide)]
  simp only [skipBlanks_append h]
  rfl

/-- A list is read if its values are. -/
theorem isRead_array {values : List Json} (hwrites : Writes (.elements values) s)
    (h : Phrase.IsRead (.elements values) s) :
    Phrase.IsRead (.value (.array values)) ('[' :: (s ++ [']'])) := by
  apply isRead_enclosed
  intro depth rest hdepth
  have hread := h depth depth rest hdepth hdepth
  obtain ⟨c, t, hc, hclose⟩ := hwrites.skipBlanks_elements (some ']' :: rest)
  rw [← readElements_skipBlanks, hc] at hread
  rw [readValue, skipBlanks_cons (by decide)]
  simp only [hc]
  split
  · next heq => exact absurd (Option.some.inj (List.cons.inj heq).1) hclose
  · rw [hread]
    rfl

/-- What is read as a value is not empty. -/
theorem Phrase.IsRead.length_pos (h : Phrase.IsRead (.item v) s) : 0 < s.length := by
  cases s with
  | nil =>
    obtain ⟨back, -, hread⟩ := h 0 [] (Nat.le_refl 0) fun _ => nofun
    cases hread
  | cons c s => exact Nat.succ_pos _

/-- The last value of a list is read up to the end of the list. -/
theorem isRead_lastElement (h : Phrase.IsRead (.item v) s) : Phrase.IsRead (.elements [v]) s := by
  intro depth limit rest hdepth hlimit
  have hpos := h.length_pos
  obtain ⟨limit, rfl⟩ := Nat.exists_eq_add_one_of_ne_zero (show limit ≠ 0 by omega)
  obtain ⟨back, hback, hread⟩ := h depth (some ']' :: rest) hdepth
    (.cons (by decide) _)
  rw [readElements, hread]
  simp only [Option.bind_eq_bind, Option.bind_some, skipBlanks_append hback]
  rw [skipBlanks_cons (by decide)]
  rfl

/-- Further values of a list are read. -/
theorem isRead_element {values : List Json} (h : Phrase.IsRead (.item v) s)
    (hrest : Phrase.IsRead (.elements values) t) :
    Phrase.IsRead (.elements (v :: values)) (s ++ ',' :: t) := by
  intro depth limit rest hdepth hlimit
  simp only [List.length_append, List.length_cons] at hdepth hlimit
  have hpos := h.length_pos
  obtain ⟨limit, rfl⟩ := Nat.exists_eq_add_one_of_ne_zero (show limit ≠ 0 by omega)
  obtain ⟨back, hback, hread⟩ := h depth (some ',' :: (t.map some ++ some ']' :: rest))
    (by omega) (.cons (by decide) _)
  rw [List.map_append, List.append_assoc, List.map_cons, List.cons_append, readElements, hread]
  simp only [Option.bind_eq_bind, Option.bind_some, skipBlanks_append hback]
  rw [skipBlanks_cons (by decide)]
  simp only [hrest depth limit rest (by omega) (by omega), Option.bind_some]

/-! ## Objects -/

/-- An object without a member is read. -/
theorem isRead_emptyObject (h : IsBlank s) :
    Phrase.IsRead (.value (.object [])) ('{' :: (s ++ ['}'])) := by
  apply isRead_enclosed
  intro depth rest _
  rw [readValue, skipBlanks_cons (by decide)]
  simp only [skipBlanks_append h]
  rfl

/-- A key begins with a quote. -/
theorem WritesKey.skipBlanks_quote {key : List JsonUnit} (h : WritesKey key s) (rest : Symbols) :
    ∃ t, skipBlanks (s.map some ++ rest) = some '"' :: t := by
  obtain ⟨hfront, -, -⟩ := h
  rw [List.map_append, List.append_assoc, skipBlanks_append hfront]
  exact ⟨_, skipBlanks_cons (by decide) _⟩

/-- The members of an object begin with a quote. -/
theorem Writes.skipBlanks_members {members : List (List JsonUnit × Json)}
    (h : Writes (.members members) s) (rest : Symbols) :
    ∃ t, skipBlanks (s.map some ++ rest) = some '"' :: t := by
  cases h with
  | lastMember hkey _ =>
    rw [List.map_append, List.append_assoc]
    exact hkey.skipBlanks_quote _
  | member hkey _ _ =>
    rw [List.map_append, List.append_assoc]
    exact hkey.skipBlanks_quote _

/-- An object is read if its members are. -/
theorem isRead_object {members : List (List JsonUnit × Json)} (hwrites : Writes (.members members) s)
    (h : Phrase.IsRead (.members members) s) :
    Phrase.IsRead (.value (.object members)) ('{' :: (s ++ ['}'])) := by
  apply isRead_enclosed
  intro depth rest hdepth
  have hread := h depth depth rest hdepth hdepth
  obtain ⟨t, ht⟩ := hwrites.skipBlanks_members (some '}' :: rest)
  rw [← readMembers_skipBlanks, ht] at hread
  rw [readValue, skipBlanks_cons (by decide)]
  simp only [ht]
  show (readMembers (readValue depth) depth (some '"' :: t) >>= _) = _
  rw [hread]
  rfl

/-- A member of an object is read behind its key, up to the colon and what stands behind it. -/
theorem readMembers_of_writesKey {key : List JsonUnit} (h : WritesKey key s)
    (value : Symbols → Option (Json × Symbols)) (limit : Nat) (rest : Symbols) :
    readMembers value (limit + 1) (s.map some ++ some ':' :: rest) = (do
      let (first, s) ← value rest
      match skipBlanks s with
      | some ',' :: s =>
        let (others, s) ← readMembers value limit s
        some ((key, first) :: others, s)
      | some '}' :: s => some ([(key, first)], s)
      | _ => none) := by
  obtain ⟨hfront, hunits, hback⟩ := h
  simp only [List.map_append, List.append_assoc, List.map_cons, List.cons_append]
  rw [readMembers, skipBlanks_append hfront, skipBlanks_cons (by decide)]
  simp only [readString_of_writesUnits hunits, Option.bind_eq_bind, Option.bind_some,
    skipBlanks_append hback]
  rw [skipBlanks_cons (by decide)]
  rfl

/-- The last member of an object is read up to the end of the object. -/
theorem isRead_lastMember {key : List JsonUnit} {k : Text} (hkey : WritesKey key k)
    (h : Phrase.IsRead (.item v) s) : Phrase.IsRead (.members [(key, v)]) (k ++ ':' :: s) := by
  intro depth limit rest hdepth hlimit
  simp only [List.length_append, List.length_cons] at hdepth hlimit
  obtain ⟨limit, rfl⟩ := Nat.exists_eq_add_one_of_ne_zero (show limit ≠ 0 by omega)
  obtain ⟨back, hback, hread⟩ := h depth (some '}' :: rest) (by omega)
    (.cons (by decide) _)
  rw [List.map_append, List.append_assoc, List.map_cons, List.cons_append,
    readMembers_of_writesKey hkey, hread]
  simp only [Option.bind_eq_bind, Option.bind_some, skipBlanks_append hback]
  rw [skipBlanks_cons (by decide)]
  rfl

/-- Further members of an object are read. -/
theorem isRead_member {key : List JsonUnit} {members : List (List JsonUnit × Json)} {k : Text}
    (hkey : WritesKey key k) (h : Phrase.IsRead (.item v) s)
    (hrest : Phrase.IsRead (.members members) t) :
    Phrase.IsRead (.members ((key, v) :: members)) (k ++ ':' :: (s ++ ',' :: t)) := by
  intro depth limit rest hdepth hlimit
  simp only [List.length_append, List.length_cons] at hdepth hlimit
  obtain ⟨limit, rfl⟩ := Nat.exists_eq_add_one_of_ne_zero (show limit ≠ 0 by omega)
  obtain ⟨back, hback, hread⟩ := h depth (some ',' :: (t.map some ++ some '}' :: rest))
    (by omega) (.cons (by decide) _)
  simp only [List.map_append, List.append_assoc, List.map_cons, List.cons_append]
  rw [readMembers_of_writesKey hkey, hread]
  simp only [Option.bind_eq_bind, Option.bind_some, skipBlanks_append hback]
  rw [skipBlanks_cons (by decide)]
  simp only [hrest depth limit rest (by omega) (by omega), Option.bind_some]

/-! ## Whole texts -/

/-- Every phrase is read as it is written. -/
theorem Writes.isRead {phrase : Phrase} (h : Writes phrase s) : phrase.IsRead s := by
  induction h with
  | nullWord => exact isRead_word (show ∀ depth rest, readValue (depth + 1) (some 'n' :: rest) =
      (word? "ull".toList rest).bind _ from fun _ _ => rfl)
  | trueWord => exact isRead_word (show ∀ depth rest, readValue (depth + 1) (some 't' :: rest) =
      (word? "rue".toList rest).bind _ from fun _ _ => rfl)
  | falseWord => exact isRead_word (show ∀ depth rest, readValue (depth + 1) (some 'f' :: rest) =
      (word? "alse".toList rest).bind _ from fun _ _ => rfl)
  | number h => exact isRead_number h
  | string h => exact isRead_string h
  | emptyArray h => exact isRead_emptyArray h
  | array h ih => exact isRead_array h ih
  | emptyObject h => exact isRead_emptyObject h
  | object h ih => exact isRead_object h ih
  | item hfront _ hback ih => exact isRead_item hfront ih hback
  | lastElement _ ih => exact isRead_lastElement ih
  | element _ _ ih ihrest => exact isRead_element ih ihrest
  | lastMember hkey _ ih => exact isRead_lastMember hkey ih
  | member hkey _ _ ih ihrest => exact isRead_member hkey ih ihrest

/-- A text, whatever stands behind it, is read as the value that it is written for, if nothing but
blanks is left. -/
theorem ofSymbols?_append (h : Writes (.item v) s) (hrest : Ends v rest) :
    ofSymbols? (s.map some ++ rest) = if skipBlanks rest = [] then some v else none := by
  obtain ⟨back, hback, hread⟩ := h.isRead ((s.map some ++ rest).length + 1) rest
    (by simp only [List.length_append, List.length_map]; omega) hrest
  rw [ofSymbols?, hread]
  simp only [Option.bind_eq_bind, Option.bind_some, skipBlanks_append hback]

/-- A text is read as the value that it is written for. -/
theorem ofSymbols?_of_writes (h : Writes (.item v) s) : ofSymbols? (s.map some) = some v := by
  have hread := ofSymbols?_append h (show Ends v [] from fun _ => nofun)
  rwa [List.append_nil] at hread

/-- An object is not read if something other than blanks stands behind it. -/
theorem ofSymbols?_append_eq_none {members : List (List JsonUnit × Json)}
    (h : Writes (.item (.object members)) s)
    (hrest : ∃ symbol ∈ rest, isJsonBlank symbol = false) :
    ofSymbols? (s.map some ++ rest) = none := by
  rw [ofSymbols?_append h nofun, if_neg]
  intro hall
  obtain ⟨symbol, hmem, hblank⟩ := hrest
  rw [List.dropWhile_eq_nil_iff.1 hall symbol hmem] at hblank
  cases hblank

end Json

end ScriptBundle
