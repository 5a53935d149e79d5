/-
# What is read as a JSON value

Only what the grammar writes is read: if a value is read, its text is in front of what is left, with
blanks in front of it.  So the reader reads exactly the texts of the grammar.

## Main content

- `Json.IsExact` says that a reader of values reads only what the grammar writes;
  `Json.isExact_readValue` is the induction over the depth.
- `Json.ofSymbols?_eq_some_iff`: a text is read as a value exactly if it is written for it.
-/
import ScriptBundle.Proofs.Json.Reading

namespace ScriptBundle

namespace Json

variable {v : Json} {symbols rest : Symbols}

/-! ## Blanks and digits -/

/-- What is dropped are characters. -/
theorem exists_dropWhile {test : Option Char → Bool} (hgap : test none = false) (symbols : Symbols) :
    ∃ s : Text, (∀ c ∈ s, test (some c) = true) ∧
      symbols = s.map some ++ symbols.dropWhile test := by
  induction symbols with
  | nil => exact ⟨[], nofun, rfl⟩
  | cons symbol symbols ih =>
    cases htest : test symbol with
    | false => exact ⟨[], nofun, by rw [List.dropWhile_cons_of_neg (by simp [htest])]; rfl⟩
    | true =>
      cases symbol with
      | none =>
        rw [hgap] at htest
        cases htest
      | some c =>
        obtain ⟨s, hs, heq⟩ := ih
        refine ⟨c :: s, ?_, ?_⟩
        · rintro d hd
          rcases List.mem_cons.1 hd with rfl | hd
          · exact htest
          · exact hs d hd
        · rw [List.dropWhile_cons_of_pos htest, List.map_cons, List.cons_append, ← heq]

/-- The blanks that are dropped. -/
theorem exists_skipBlanks (symbols : Symbols) :
    ∃ front, IsBlank front ∧ symbols = front.map some ++ skipBlanks symbols := by
  obtain ⟨front, hfront, heq⟩ := exists_dropWhile (show isJsonBlank none = false by decide) symbols
  refine ⟨front, fun c hc => ?_, heq⟩
  simpa [isJsonBlank, or_assoc] using hfront c hc

/-- The digits that are read. -/
theorem exists_of_digits? (h : digits? symbols = some rest) :
    ∃ s, IsDigits s ∧ symbols = s.map some ++ rest := by
  obtain ⟨s, hs, heq⟩ := exists_dropWhile (show isDigit none = false from rfl) symbols
  unfold digits? at h
  split at h
  · next hfirst =>
    cases h
    refine ⟨s, ⟨?_, hs⟩, heq⟩
    rintro rfl
    -- if nothing was dropped, the first symbol would be no digit
    cases symbols with
    | nil => cases hfirst
    | cons symbol symbols =>
      rw [List.dropWhile_cons_of_pos (show isDigit symbol = true from hfirst)] at heq
      have hlength := congrArg List.length heq
      have hle := (List.dropWhile_suffix isDigit (l := symbols)).length_le
      simp only [List.map_nil, List.nil_append, List.length_cons] at hlength
      omega
  · cases h

/-! ## Numbers -/

/-- The integer part that is read. -/
theorem exists_of_integer? (h : integer? symbols = some rest) :
    ∃ s, IsInteger s ∧ symbols = s.map some ++ rest := by
  unfold integer? at h
  split at h
  · cases h
    exact ⟨['0'], .zero, rfl⟩
  · next hzero =>
    obtain ⟨s, hs, rfl⟩ := exists_of_digits? h
    refine ⟨s, .digits hs fun hhead => ?_, rfl⟩
    obtain ⟨t, rfl⟩ := List.head?_eq_some_iff.1 hhead
    exact hzero _ rfl

/-- The decimal places that are read. -/
theorem exists_of_fraction? (h : fraction? symbols = some rest) :
    ∃ s, IsFraction s ∧ symbols = s.map some ++ rest := by
  unfold fraction? at h
  split at h
  · obtain ⟨s, hs, rfl⟩ := exists_of_digits? h
    exact ⟨'.' :: s, .places hs, rfl⟩
  · cases h
    exact ⟨[], .missing, rfl⟩

/-- The power that is read behind the letter of an exponent. -/
theorem exists_of_power {letter : Char} (hletter : letter = 'e' ∨ letter = 'E')
    (h : exponent? (some letter :: symbols) = some rest) :
    ∃ s, IsExponent s ∧ some letter :: symbols = s.map some ++ rest := by
  have hpower : ∃ sign s, (sign = [] ∨ sign = ['+'] ∨ sign = ['-']) ∧ IsDigits s ∧
      symbols = (sign ++ s).map some ++ rest := by
    rcases hletter with rfl | rfl <;> simp only [exponent?] at h <;> split at h <;>
      obtain ⟨s, hs, rfl⟩ := exists_of_digits? h
    · exact ⟨['+'], s, .inr (.inl rfl), hs, rfl⟩
    · exact ⟨['-'], s, .inr (.inr rfl), hs, rfl⟩
    · exact ⟨[], s, .inl rfl, hs, rfl⟩
    · exact ⟨['+'], s, .inr (.inl rfl), hs, rfl⟩
    · exact ⟨['-'], s, .inr (.inr rfl), hs, rfl⟩
    · exact ⟨[], s, .inl rfl, hs, rfl⟩
  obtain ⟨sign, s, hsign, hs, rfl⟩ := hpower
  exact ⟨letter :: (sign ++ s), .power hletter hsign hs, rfl⟩

/-- The exponent that is read. -/
theorem exists_of_exponent? (h : exponent? symbols = some rest) :
    ∃ s, IsExponent s ∧ symbols = s.map some ++ rest := by
  unfold exponent? at h
  split at h
  · exact exists_of_power (.inl rfl) h
  · exact exists_of_power (.inr rfl) h
  · cases h
    exact ⟨[], .missing, rfl⟩

/-- The number that is read. -/
theorem exists_of_number? (h : number? symbols = some rest) :
    ∃ s, IsNumber s ∧ symbols = s.map some ++ rest := by
  have hunsigned : ∀ {symbols : Symbols}, (integer? symbols >>= fraction? >>= exponent?) = some rest →
      ∃ s t u, IsInteger s ∧ IsFraction t ∧ IsExponent u ∧
        symbols = (s ++ (t ++ u)).map some ++ rest := by
    intro symbols h
    obtain ⟨mid, h, hexponent⟩ := Option.bind_eq_some_iff.1 h
    obtain ⟨first, hinteger, hfraction⟩ := Option.bind_eq_some_iff.1 h
    obtain ⟨s, hs, rfl⟩ := exists_of_integer? hinteger
    obtain ⟨t, ht, rfl⟩ := exists_of_fraction? hfraction
    obtain ⟨u, hu, rfl⟩ := exists_of_exponent? hexponent
    exact ⟨s, t, u, hs, ht, hu, by simp only [List.map_append, List.append_assoc]⟩
  unfold number? at h
  split at h
  · obtain ⟨s, t, u, hs, ht, hu, rfl⟩ := hunsigned h
    exact ⟨_, .intro (.inr rfl) hs ht hu, rfl⟩
  · obtain ⟨s, t, u, hs, ht, hu, rfl⟩ := hunsigned h
    exact ⟨_, .intro (.inl rfl) hs ht hu, rfl⟩

/-! ## Strings -/

/-- The letter of an escape that is read. -/
theorem mem_escapeLetters {letter c : Char} (h : escaped? letter = some c) :
    (letter, c) ∈ escapeLetters := by
  unfold escaped? at h
  split at h <;> cases h <;> decide

/-- The hexadecimal digit that is read. -/
theorem mem_hexDigits {c : Char} {n : Nat} (h : hexDigit? c = some n) : (c, n) ∈ hexDigits := by
  have hlow : c.toNat < 128 := by
    by_contra hhigh
    have hle : ∀ d : Char, d.toNat < 128 → ¬ c ≤ d := by
      intro d hd hcd
      have hle : c.toNat ≤ d.toNat := UInt32.le_iff_toNat_le.1 hcd
      omega
    simp [hexDigit?, hle] at h
  have hall : ∀ m < 128, ∀ n ∈ hexDigit? (Char.ofNat m), (Char.ofNat m, n) ∈ hexDigits := by decide
  have hmem := hall c.toNat hlow n
  rw [Char.ofNat_toNat] at hmem
  exact hmem h

/-- The code unit that is read. -/
theorem writesUnit_of_hexValue? {a b c d : Char} {unit : Nat} (h : hexValue? a b c d = some unit) :
    WritesUnit (.code unit) ['\\', 'u', a, b, c, d] := by
  unfold hexValue? at h
  obtain ⟨i, ha, h⟩ := Option.bind_eq_some_iff.1 h
  obtain ⟨j, hb, h⟩ := Option.bind_eq_some_iff.1 h
  obtain ⟨k, hc, h⟩ := Option.bind_eq_some_iff.1 h
  obtain ⟨n, hd, h⟩ := Option.bind_eq_some_iff.1 h
  have hunit : unit = ((i * 16 + j) * 16 + k) * 16 + n := by
    have := Option.some.inj h
    omega
  rw [hunit]
  exact .code (mem_hexDigits ha) (mem_hexDigits hb) (mem_hexDigits hc) (mem_hexDigits hd)

/-- A unit in front of the units that are read. -/
theorem exists_unit {unit : JsonUnit} {found units : List JsonUnit} {s : Text}
    (hunit : WritesUnit unit s)
    (h : ∃ more t, WritesUnits more t ∧ units = (unit :: found).reverse ++ more ∧
      symbols = t.map some ++ some '"' :: rest) :
    ∃ more t, WritesUnits more t ∧ units = found.reverse ++ more ∧
      s.map some ++ symbols = t.map some ++ some '"' :: rest := by
  obtain ⟨more, t, hmore, rfl, rfl⟩ := h
  refine ⟨unit :: more, s ++ t, .cons hunit hmore, ?_, ?_⟩
  · rw [List.reverse_cons, List.append_assoc]
    rfl
  · rw [List.map_append, List.append_assoc]

/-- The string that is read, with its closing quote. -/
theorem exists_of_readString {found units : List JsonUnit} (hgap : none ∉ symbols)
    (h : readString found symbols = some (units, rest)) :
    ∃ more s, WritesUnits more s ∧ units = found.reverse ++ more ∧
      symbols = s.map some ++ some '"' :: rest := by
  fun_induction readString found symbols with
  | case1 => cases h
  | case2 found symbols => exact absurd (List.mem_cons_self ..) hgap
  | case3 found symbols =>
    cases h
    exact ⟨[], [], .nil, (List.append_nil _).symm, rfl⟩
  | case4 found a b c d symbols unit hunit ih =>
    exact exists_unit (writesUnit_of_hexValue? hunit)
      (ih (fun hmem => hgap (by simp only [List.mem_cons, hmem, or_true])) h)
  | case5 => cases h
  | case6 found letter symbols hu c hletter ih =>
    exact exists_unit (.letter (mem_escapeLetters hletter))
      (ih (fun hmem => hgap (by simp only [List.mem_cons, hmem, or_true])) h)
  | case7 => cases h
  | case8 => cases h
  | case9 found c symbols hquote _ _ hplain ih =>
    rw [not_or, Nat.not_lt] at hplain
    exact exists_unit (.plain hquote hplain.1 hplain.2)
      (ih (fun hmem => hgap (List.mem_cons_of_mem _ hmem)) h)

/-! ## Words -/

/-- The word that is read. -/
theorem eq_of_word? {word : Text} (h : word? word symbols = some rest) :
    symbols = word.map some ++ rest := by
  simp only [word?] at h
  split at h
  · next hprefix =>
    cases h
    rw [List.isPrefixOf_iff_prefix] at hprefix
    exact (List.prefix_iff_eq_append.1 hprefix).symm
  · cases h

/-! ## Values -/

/-- A reader of values reads only what the grammar writes. -/
def IsExact (value : Symbols → Option (Json × Symbols)) : Prop :=
  ∀ {symbols v rest}, none ∉ symbols → value symbols = some (v, rest) →
    ∃ front s, IsBlank front ∧ Writes (.value v) s ∧ symbols = (front ++ s).map some ++ rest

/-- Behind blanks that are dropped, nothing else is left out. -/
theorem exists_of_skipBlanks {symbol : Option Char} (h : skipBlanks symbols = symbol :: rest) :
    ∃ front, IsBlank front ∧ symbols = front.map some ++ symbol :: rest := by
  obtain ⟨front, hfront, heq⟩ := exists_skipBlanks symbols
  rw [h] at heq
  exact ⟨front, hfront, heq⟩

/-- The key of a member, up to the colon. -/
theorem exists_key {key : List JsonUnit} {inside behind : Symbols} (hgap : none ∉ symbols)
    (hquote : skipBlanks symbols = some '"' :: inside)
    (hread : readString [] inside = some (key, behind))
    (hcolon : skipBlanks behind = some ':' :: rest) :
    ∃ k, WritesKey key k ∧ symbols = k.map some ++ some ':' :: rest := by
  obtain ⟨front, hfront, rfl⟩ := exists_of_skipBlanks hquote
  obtain ⟨units, s, hs, rfl, rfl⟩ := exists_of_readString (fun hmem => hgap (by simp [hmem])) hread
  obtain ⟨back, hback, rfl⟩ := exists_of_skipBlanks hcolon
  exact ⟨_, .intro hfront hs hback, by simp⟩

section

variable {value : Symbols → Option (Json × Symbols)} (hvalue : IsExact value)

include hvalue

/-- A value with the blanks around it and what stands behind them. -/
theorem IsExact.exists_item {symbol : Option Char} {mid : Symbols} (hgap : none ∉ symbols)
    (h : value symbols = some (v, mid)) (hmid : skipBlanks mid = symbol :: rest) :
    ∃ s, Writes (.item v) s ∧ symbols = s.map some ++ symbol :: rest := by
  obtain ⟨front, s, hfront, hs, rfl⟩ := hvalue hgap h
  obtain ⟨back, hback, rfl⟩ := exists_of_skipBlanks hmid
  exact ⟨_, .item hfront hs hback, by simp only [List.map_append, List.append_assoc]⟩

/-- The values of a list that are read. -/
theorem IsExact.readElements {limit : Nat} {values : List Json} (hgap : none ∉ symbols)
    (h : readElements value limit symbols = some (values, rest)) :
    ∃ s, Writes (.elements values) s ∧ symbols = s.map some ++ some ']' :: rest := by
  induction limit generalizing symbols values with
  | zero => cases h
  | succ limit ih =>
    rw [Json.readElements] at h
    obtain ⟨⟨first, mid⟩, hfirst, h⟩ := Option.bind_eq_some_iff.1 h
    dsimp only at h
    split at h
    · next more hmid =>
      obtain ⟨⟨others, left⟩, hothers, h⟩ := Option.bind_eq_some_iff.1 h
      cases h
      obtain ⟨s, hs, rfl⟩ := hvalue.exists_item hgap hfirst hmid
      obtain ⟨t, ht, rfl⟩ := ih (fun hmem => hgap (by simp [hmem])) hothers
      exact ⟨_, .element hs ht, by simp⟩
    · next more hmid =>
      cases h
      obtain ⟨s, hs, rfl⟩ := hvalue.exists_item hgap hfirst hmid
      exact ⟨s, .lastElement hs, rfl⟩
    · cases h

/-- The members of an object that are read. -/
theorem IsExact.readMembers {limit : Nat} {members : List (List JsonUnit × Json)}
    (hgap : none ∉ symbols) (h : readMembers value limit symbols = some (members, rest)) :
    ∃ s, Writes (.members members) s ∧ symbols = s.map some ++ some '}' :: rest := by
  induction limit generalizing symbols members with
  | zero => cases h
  | succ limit ih =>
    rw [Json.readMembers] at h
    split at h
    · next inside hquote =>
      obtain ⟨⟨key, behind⟩, hread, hmember⟩ := Option.bind_eq_some_iff.1 h
      dsimp only at hmember
      split at hmember
      · next inner hcolon =>
        obtain ⟨k, hk, rfl⟩ := exists_key hgap hquote hread hcolon
        obtain ⟨⟨first, mid⟩, hfirst, hothers⟩ := Option.bind_eq_some_iff.1 hmember
        have hinner : none ∉ inner := fun hmem => hgap (by simp [hmem])
        dsimp only at hothers
        split at hothers
        · next more hmid =>
          obtain ⟨⟨others, left⟩, hmore, hall⟩ := Option.bind_eq_some_iff.1 hothers
          cases hall
          obtain ⟨s, hs, rfl⟩ := hvalue.exists_item hinner hfirst hmid
          obtain ⟨t, ht, rfl⟩ := ih (fun hmem => hinner (by simp [hmem])) hmore
          exact ⟨_, .member hk hs ht, by simp⟩
        · next more hmid =>
          cases hothers
          obtain ⟨s, hs, rfl⟩ := hvalue.exists_item hinner hfirst hmid
          exact ⟨_, .lastMember hk hs, by simp⟩
        · cases hothers
      · cases hmember
    · cases h

end

section

variable {depth : Nat} {inside : Symbols}

/-- The string behind its quote. -/
theorem exists_of_quote (hgap : none ∉ inside)
    (h : readValue (depth + 1) (some '"' :: inside) = some (v, rest)) :
    ∃ s, Writes (.value v) s ∧ some '"' :: inside = s.map some ++ rest := by
  rw [readValue, skipBlanks_cons (by decide)] at h
  obtain ⟨⟨units, left⟩, hread, hv⟩ := Option.bind_eq_some_iff.1 h
  cases hv
  obtain ⟨units, s, hs, rfl, rfl⟩ := exists_of_readString hgap hread
  exact ⟨_, .string hs, by simp⟩

/-- The list behind its bracket. -/
theorem IsExact.exists_of_bracket (hvalue : IsExact (readValue depth)) (hgap : none ∉ inside)
    (h : readValue (depth + 1) (some '[' :: inside) = some (v, rest)) :
    ∃ s, Writes (.value v) s ∧ some '[' :: inside = s.map some ++ rest := by
  rw [readValue, skipBlanks_cons (by decide)] at h
  simp only at h
  split at h
  · next left hclose =>
    cases h
    obtain ⟨back, hback, rfl⟩ := exists_of_skipBlanks hclose
    exact ⟨_, .emptyArray hback, by simp⟩
  · rw [readElements_skipBlanks] at h
    obtain ⟨⟨values, left⟩, hread, hv⟩ := Option.bind_eq_some_iff.1 h
    cases hv
    obtain ⟨s, hs, rfl⟩ := hvalue.readElements hgap hread
    exact ⟨_, .array hs, by simp⟩

/-- The object behind its brace. -/
theorem IsExact.exists_of_brace (hvalue : IsExact (readValue depth)) (hgap : none ∉ inside)
    (h : readValue (depth + 1) (some '{' :: inside) = some (v, rest)) :
    ∃ s, Writes (.value v) s ∧ some '{' :: inside = s.map some ++ rest := by
  rw [readValue, skipBlanks_cons (by decide)] at h
  simp only at h
  split at h
  · next left hclose =>
    cases h
    obtain ⟨back, hback, rfl⟩ := exists_of_skipBlanks hclose
    exact ⟨_, .emptyObject hback, by simp⟩
  · rw [readMembers_skipBlanks] at h
    obtain ⟨⟨members, left⟩, hread, hv⟩ := Option.bind_eq_some_iff.1 h
    cases hv
    obtain ⟨s, hs, rfl⟩ := hvalue.readMembers hgap hread
    exact ⟨_, .object hs, by simp⟩

/-- The word behind its first letter. -/
theorem exists_of_letter {v' : Json} {first : Char} {word : Text}
    (hwrites : Writes (.value v') (first :: word))
    (h : (word? word inside).bind (fun rest => some (v', rest)) = some (v, rest)) :
    ∃ s, Writes (.value v) s ∧ some first :: inside = s.map some ++ rest := by
  obtain ⟨left, hword, hv⟩ := Option.bind_eq_some_iff.1 h
  cases hv
  exact ⟨_, hwrites, by rw [eq_of_word? hword]; rfl⟩

end

/-- At every depth, only what the grammar writes is read. -/
theorem isExact_readValue (depth : Nat) : IsExact (readValue depth) := by
  induction depth with
  | zero => exact fun _ h => by cases h
  | succ depth ih =>
    intro symbols v rest hgap h
    obtain ⟨front, hfront, hsymbols⟩ := exists_skipBlanks symbols
    suffices hvalue : ∃ s, Writes (.value v) s ∧ skipBlanks symbols = s.map some ++ rest by
      obtain ⟨s, hs, heq⟩ := hvalue
      exact ⟨front, s, hfront, hs, by rw [hsymbols, heq, List.map_append, List.append_assoc]⟩
    rw [hsymbols, List.mem_append, not_or] at hgap
    have hread := h
    rw [← readValue_skipBlanks] at hread
    rw [readValue] at h
    -- the first symbol behind the blanks decides
    split at h
    · next inside heq =>
      rw [heq] at hread hgap ⊢
      exact exists_of_quote (fun hmem => hgap.2 (List.mem_cons_of_mem _ hmem)) hread
    · next inside heq =>
      rw [heq] at hread hgap ⊢
      exact ih.exists_of_bracket (fun hmem => hgap.2 (List.mem_cons_of_mem _ hmem)) hread
    · next inside heq =>
      rw [heq] at hread hgap ⊢
      exact ih.exists_of_brace (fun hmem => hgap.2 (List.mem_cons_of_mem _ hmem)) hread
    · next inside heq =>
      rw [heq]
      exact exists_of_letter .trueWord h
    · next inside heq =>
      rw [heq]
      exact exists_of_letter .falseWord h
    · next inside heq =>
      rw [heq]
      exact exists_of_letter .nullWord h
    · obtain ⟨left, hnumber, hv⟩ := Option.bind_eq_some_iff.1 h
      cases hv
      obtain ⟨s, hs, heq⟩ := exists_of_number? hnumber
      exact ⟨s, .number hs, heq⟩

/-! ## Whole texts -/

/-- A text is read as a value exactly if it is written for it. -/
theorem ofSymbols?_eq_some_iff {s : Text} : ofSymbols? (s.map some) = some v ↔ Writes (.item v) s := by
  refine ⟨fun h => ?_, ofSymbols?_of_writes⟩
  obtain ⟨⟨v', left⟩, hread, hv⟩ := Option.bind_eq_some_iff.1 h
  dsimp only at hv
  split at hv
  · next hall =>
    cases hv
    have hgap : none ∉ s.map some := by simp
    obtain ⟨front, t, hfront, ht, heq⟩ := isExact_readValue _ hgap hread
    obtain ⟨back, hback, hleft⟩ := exists_skipBlanks left
    rw [hall, List.append_nil] at hleft
    rw [hleft, ← List.map_append] at heq
    rw [(List.map_inj_right fun _ _ => Option.some.inj).1 heq, List.append_assoc]
    exact .item hfront ht hback
  · cases hv

end Json

end ScriptBundle
