/-
# Reading numbers and strings of JSON

The parts of JSON values that are no values themselves are read as the grammar writes them, whatever
stands behind them, as long as it does not go on with a number.

## Main content

- `Json.number?_of_isNumber`: a number is read to its end.
- `Json.readString_of_writesUnits`: the units of a string are read up to its closing quote.
- `Json.unitsText?_of_denotes` and `Json.denotes_of_unitsText?`: the text of a string is the one that
  its units stand for.
-/
import Mathlib.Data.List.DropRight
import ScriptBundle.Proofs.Json.Grammar

namespace ScriptBundle

namespace Json

variable {s t u : Text} {rest : Symbols}

/-! ## Blanks -/

/-- A character of the grammar's blanks is a blank. -/
theorem isJsonBlank_of_mem {c : Char} (h : c ∈ [' ', '\t', '\n', '\r']) :
    isJsonBlank (some c) = true := by
  have hall : [' ', '\t', '\n', '\r'].all (isJsonBlank ∘ some) = true := by decide
  exact List.all_eq_true.1 hall c h

/-- Leading blanks are dropped. -/
theorem skipBlanks_append (h : IsBlank s) (rest : Symbols) :
    skipBlanks (s.map some ++ rest) = skipBlanks rest := by
  unfold skipBlanks
  apply List.dropWhile_append_of_pos
  intro symbol hmem
  obtain ⟨c, hc, rfl⟩ := List.mem_map.1 hmem
  exact isJsonBlank_of_mem (h c hc)

/-- Where there is no blank, none is dropped. -/
theorem skipBlanks_cons {symbol : Option Char} (h : isJsonBlank symbol = false) (rest : Symbols) :
    skipBlanks (symbol :: rest) = symbol :: rest :=
  List.dropWhile_cons_of_neg (by simp [h])

/-- Blanks are dropped all at once. -/
@[simp] theorem skipBlanks_skipBlanks (rest : Symbols) :
    skipBlanks (skipBlanks rest) = skipBlanks rest := List.dropWhile_idempotent ..

/-! ## Numbers -/

/-- The symbols do not begin with one of some characters. -/
def BeginsNot (characters : Char → Bool) (rest : Symbols) : Prop :=
  ∀ c, rest.head? = some (some c) → characters c = false

/-- The characters that can go on with a number. -/
def isNumberChar (c : Char) : Bool := c.isDigit || c = '.' || c = 'e' || c = 'E'

/-- What does not begin with some characters does not begin with one of them. -/
theorem BeginsNot.mono {characters others : Char → Bool} (h : BeginsNot characters rest)
    (hsub : ∀ c, others c = true → characters c = true) : BeginsNot others rest := by
  intro c hc
  cases hother : others c with
  | false => rfl
  | true =>
    have hfalse := h c hc
    rw [hsub c hother] at hfalse
    cases hfalse

/-- Digits are read to their end. -/
theorem digits?_of_isDigits (h : IsDigits s) (hrest : BeginsNot Char.isDigit rest) :
    digits? (s.map some ++ rest) = some rest := by
  obtain ⟨hne, hdigits⟩ := h
  obtain ⟨c, s, rfl⟩ := List.exists_cons_of_ne_nil hne
  have hall : ∀ symbol ∈ (c :: s).map some, isDigit symbol = true := by
    intro symbol hmem
    obtain ⟨d, hd, rfl⟩ := List.mem_map.1 hmem
    exact hdigits d hd
  have hstop : rest.dropWhile isDigit = rest := by
    cases rest with
    | nil => rfl
    | cons symbol rest =>
      apply List.dropWhile_cons_of_neg
      cases symbol with
      | none => simp [isDigit]
      | some d => simpa [isDigit] using hrest d rfl
  have hfirst : ((c :: s).map some ++ rest).head?.any isDigit = true := hall _ (List.mem_cons_self ..)
  rw [digits?, if_pos hfirst, List.dropWhile_append_of_pos hall, hstop]

/-- An integer part is read to its end. -/
theorem integer?_of_isInteger (h : IsInteger s) (hrest : BeginsNot Char.isDigit rest) :
    integer? (s.map some ++ rest) = some rest := by
  cases h with
  | zero => rfl
  | digits h hzero =>
    have hdigits := digits?_of_isDigits h hrest
    obtain ⟨c, s, rfl⟩ := List.exists_cons_of_ne_nil h.1
    have hc : c ≠ '0' := fun heq => hzero (congrArg some heq)
    unfold integer?
    split
    · next heq => exact absurd (Option.some.inj (List.cons.inj heq).1) hc
    · exact hdigits

/-- Decimal places are read to their end. -/
theorem fraction?_of_isFraction (h : IsFraction s) (hrest : BeginsNot Char.isDigit rest)
    (hpoint : BeginsNot (· = '.') rest) : fraction? (s.map some ++ rest) = some rest := by
  cases h with
  | missing =>
    unfold fraction?
    split
    · next heq =>
      have hfalse := hpoint '.' (by rw [show rest = _ from heq]; rfl)
      cases hfalse
    · rfl
  | places h => exact digits?_of_isDigits h hrest

/-- The digits of an exponent may follow its letter directly. -/
theorem exponent?_of_isDigit {letter c : Char} (hletter : letter = 'e' ∨ letter = 'E')
    (hc : c.isDigit = true) (rest : Symbols) :
    exponent? (some letter :: some c :: rest) = digits? (some c :: rest) := by
  have hplus : c ≠ '+' := by
    rintro rfl
    cases hc
  have hminus : c ≠ '-' := by
    rintro rfl
    cases hc
  rcases hletter with rfl | rfl <;> simp [exponent?, hplus, hminus]

/-- An exponent is read to its end. -/
theorem exponent?_of_isExponent (h : IsExponent s) (hrest : BeginsNot isNumberChar rest) :
    exponent? (s.map some ++ rest) = some rest := by
  have hdigit : BeginsNot Char.isDigit rest := hrest.mono fun c hc => by simp [isNumberChar, hc]
  cases h with
  | missing =>
    unfold exponent?
    split
    · next heq =>
      have hfalse := hrest 'e' (by rw [show rest = _ from heq]; rfl)
      cases hfalse
    · next heq =>
      have hfalse := hrest 'E' (by rw [show rest = _ from heq]; rfl)
      cases hfalse
    · rfl
  | @power letter sign s hletter hsign h =>
    have hdigits := digits?_of_isDigits h hdigit
    rcases hsign with rfl | rfl | rfl
    · obtain ⟨c, s, rfl⟩ := List.exists_cons_of_ne_nil h.1
      rw [← hdigits]
      exact exponent?_of_isDigit hletter (h.2 c (List.mem_cons_self ..)) _
    · rcases hletter with rfl | rfl <;> exact hdigits
    · rcases hletter with rfl | rfl <;> exact hdigits

/-- What stands behind decimal places does not go on with them. -/
theorem IsExponent.beginsNot (h : IsExponent s) (hrest : BeginsNot isNumberChar rest) :
    BeginsNot (fun c => c.isDigit || c = '.') (s.map some ++ rest) := by
  cases h with
  | missing => exact hrest.mono fun c hc => by simp_all [isNumberChar]
  | power hletter hsign h =>
    intro c hc
    cases Option.some.inj (Option.some.inj hc)
    rcases hletter with rfl | rfl <;> rfl

/-- What stands behind an integer part does not go on with it. -/
theorem IsFraction.beginsNot (h : IsFraction s)
    (hrest : BeginsNot (fun c => c.isDigit || c = '.') rest) :
    BeginsNot Char.isDigit (s.map some ++ rest) := by
  cases h with
  | missing => exact hrest.mono fun c hc => by simp [hc]
  | places h =>
    intro c hc
    cases Option.some.inj (Option.some.inj hc)
    rfl

/-- An integer part begins with a digit. -/
theorem IsInteger.exists_cons (h : IsInteger s) : ∃ c t, s = c :: t ∧ c.isDigit = true := by
  cases h with
  | zero => exact ⟨'0', [], rfl, rfl⟩
  | digits h _ =>
    obtain ⟨c, t, rfl⟩ := List.exists_cons_of_ne_nil h.1
    exact ⟨c, t, rfl, h.2 c (List.mem_cons_self ..)⟩

/-- A number begins with a minus or a digit. -/
theorem IsNumber.exists_cons (h : IsNumber s) :
    ∃ c t, s = c :: t ∧ (c = '-' ∨ c.isDigit = true) := by
  obtain ⟨rfl | rfl, hinteger, -, -⟩ := h
  · obtain ⟨c, t, rfl, hc⟩ := hinteger.exists_cons
    exact ⟨c, _, rfl, .inr hc⟩
  · exact ⟨'-', _, rfl, .inl rfl⟩

/-- A number is read to its end. -/
theorem number?_of_isNumber (h : IsNumber s) (hrest : BeginsNot isNumberChar rest) :
    number? (s.map some ++ rest) = some rest := by
  obtain @⟨sign, s, t, u, hsign, hinteger, hfraction, hexponent⟩ := h
  have hbehind := hexponent.beginsNot hrest
  have hunsigned : integer? ((s ++ (t ++ u)).map some ++ rest) >>= fraction? >>= exponent? =
      some rest := by
    simp only [List.map_append, List.append_assoc]
    rw [integer?_of_isInteger hinteger (hfraction.beginsNot hbehind)]
    show fraction? _ >>= exponent? = _
    rw [fraction?_of_isFraction hfraction (hbehind.mono fun c hc => by simp [hc])
      (hbehind.mono fun c hc => by simp_all)]
    exact exponent?_of_isExponent hexponent hrest
  rcases hsign with rfl | rfl
  · obtain ⟨c, r, hs, hc⟩ := hinteger.exists_cons
    rw [← hunsigned, hs]
    unfold number?
    split
    · next heq =>
      cases Option.some.inj (List.cons.inj heq).1
      cases hc
    · rfl
  · exact hunsigned

/-! ## Strings -/

/-- The reader knows the letters of escapes. -/
theorem escaped?_of_mem {letter c : Char} (h : (letter, c) ∈ escapeLetters) :
    escaped? letter = some c := by
  have hall : ∀ entry ∈ escapeLetters, escaped? entry.1 = some entry.2 := by decide
  exact hall _ h

/-- The reader knows the hexadecimal digits. -/
theorem hexDigit?_of_mem {c : Char} {n : Nat} (h : (c, n) ∈ hexDigits) :
    hexDigit? c = some n := by
  have hall : ∀ entry ∈ hexDigits, hexDigit? entry.1 = some entry.2 := by decide
  exact hall _ h

/-- The value of a hexadecimal digit is below sixteen. -/
theorem lt_of_mem_hexDigits {c : Char} {n : Nat} (h : (c, n) ∈ hexDigits) : n < 16 := by
  have hall : ∀ entry ∈ hexDigits, entry.2 < 16 := by decide
  exact hall _ h

/-- A unit is read as it is written. -/
theorem readString_of_writesUnit {unit : JsonUnit} (h : WritesUnit unit s)
    (found : List JsonUnit) (rest : Symbols) :
    readString found (s.map some ++ rest) = readString (unit :: found) rest := by
  cases h with
  | @plain c hquote hescape hcontrol =>
    show readString found (some c :: rest) = _
    rw [readString, if_neg (by simp [hescape, hcontrol])]
    · exact hquote
    · exact fun _ _ _ _ _ _ => hescape
    · exact fun _ _ _ => hescape
  | @letter letter c h =>
    have hescaped := escaped?_of_mem h
    have hu : letter ≠ 'u' := by
      rintro rfl
      cases hescaped
    show readString found (some '\\' :: some letter :: rest) = _
    rw [readString, hescaped]
    exact fun _ _ _ _ _ _ => hu
  | @code a b c d i j k n ha hb hc hd =>
    have hvalue : hexValue? a b c d = some (((i * 16 + j) * 16 + k) * 16 + n) := by
      simp only [hexValue?, hexDigit?_of_mem ha, hexDigit?_of_mem hb, hexDigit?_of_mem hc,
        hexDigit?_of_mem hd]
      exact congrArg some (by omega)
    show readString found (some '\\' :: some 'u' :: some a :: some b :: some c :: some d :: rest) = _
    rw [readString, hvalue]

/-- The units of a string are read up to its closing quote. -/
theorem readString_of_writesUnits {units : List JsonUnit} (h : WritesUnits units s)
    (found : List JsonUnit) (rest : Symbols) :
    readString found (s.map some ++ some '"' :: rest) = some (found.reverse ++ units, rest) := by
  induction h generalizing found with
  | nil =>
    show readString found (some '"' :: rest) = _
    rw [readString, List.append_nil]
  | cons hunit _ ih =>
    rw [List.map_append, List.append_assoc, readString_of_writesUnit hunit, ih,
      List.reverse_cons, List.append_assoc]
    rfl

/-- Code units that are written have sixteen bits. -/
theorem WritesUnits.lt_of_code_mem {units : List JsonUnit} (h : WritesUnits units s) {n : Nat}
    (hmem : .code n ∈ units) : n < 0x10000 := by
  induction h with
  | nil => cases hmem
  | cons hunit _ ih =>
    rcases List.mem_cons.1 hmem with rfl | hmem
    · cases hunit with
      | code ha hb hc hd =>
        have := lt_of_mem_hexDigits ha
        have := lt_of_mem_hexDigits hb
        have := lt_of_mem_hexDigits hc
        have := lt_of_mem_hexDigits hd
        omega
    · exact ih hmem

/-! ## Texts of strings -/

/-- A code unit that is half of no surrogate pair is a character. -/
theorem unitsText?_code {unit : Nat} (hlead : isLead unit = false) (htrail : isTrail unit = false)
    (rest : List JsonUnit) :
    unitsText? (.code unit :: rest) = (unitsText? rest).map (Char.ofNat unit :: ·) := by
  rw [unitsText?.eq_def]
  split <;> simp_all

/-- Units in front that stand for a character. -/
theorem unitsText?_of_standsFor {c : Char} {units : List JsonUnit} (h : StandsFor c units)
    (rest : List JsonUnit) :
    unitsText? (units ++ rest) = (unitsText? rest).map (c :: ·) := by
  have hvalid : c.toNat < 0xD800 ∨ 0xDFFF < c.toNat ∧ c.toNat < 0x110000 := c.valid
  cases h with
  | char => rfl
  | code h =>
    show unitsText? (.code c.toNat :: rest) = _
    rw [unitsText?_code (by simp [isLead]; omega) (by simp [isTrail]; omega), Char.ofNat_toNat]
  | pair h =>
    show unitsText? (.code _ :: .code _ :: rest) = _
    rw [unitsText?, if_pos (by simp [isLead]; omega), if_pos (by simp [isTrail]; omega),
      show 0x10000 + (0xD800 + (c.toNat - 0x10000) / 0x400 - 0xD800) * 0x400 +
        (0xDC00 + (c.toNat - 0x10000) % 0x400 - 0xDC00) = c.toNat by omega, Char.ofNat_toNat]

/-- The text that the units stand for is the text of the string. -/
theorem unitsText?_of_denotes {units : List JsonUnit} (h : Denotes units s) :
    unitsText? units = some s := by
  induction h with
  | nil => rfl
  | cons hc _ ih =>
    rw [unitsText?_of_standsFor hc, ih]
    rfl

/-- The number of a character with a valid number. -/
theorem toNat_charOfNat {n : Nat} (h : n.isValidChar) : (Char.ofNat n).toNat = n := by
  rw [Char.ofNat, dif_pos h]
  rfl

/-- A code unit that is half of no surrogate pair stands for its character. -/
theorem standsFor_of_code {unit : Nat} (hlt : unit < 0x10000) (hlead : isLead unit = false)
    (htrail : isTrail unit = false) : StandsFor (Char.ofNat unit) [.code unit] := by
  simp only [isLead, isTrail, Bool.and_eq_false_iff, decide_eq_false_iff_not] at hlead htrail
  have htoNat : (Char.ofNat unit).toNat = unit :=
    toNat_charOfNat (show unit < 0xD800 ∨ 0xDFFF < unit ∧ unit < 0x110000 by omega)
  have h : StandsFor (Char.ofNat unit) [.code (Char.ofNat unit).toNat] :=
    .code (by rw [htoNat]; exact hlt)
  rwa [htoNat] at h

/-- A surrogate pair stands for its character. -/
theorem standsFor_of_pair {lead trail : Nat} (hlead : isLead lead = true)
    (htrail : isTrail trail = true) :
    StandsFor (Char.ofNat (0x10000 + (lead - 0xD800) * 0x400 + (trail - 0xDC00)))
      [.code lead, .code trail] := by
  simp only [isLead, isTrail, Bool.and_eq_true, decide_eq_true_eq] at hlead htrail
  obtain ⟨n, hn⟩ : ∃ n, n = 0x10000 + (lead - 0xD800) * 0x400 + (trail - 0xDC00) := ⟨_, rfl⟩
  have htoNat : (Char.ofNat n).toNat = n :=
    toNat_charOfNat (show n < 0xD800 ∨ 0xDFFF < n ∧ n < 0x110000 by omega)
  have h : StandsFor (Char.ofNat n) _ := .pair (by omega)
  rwa [htoNat, show 0xD800 + (n - 0x10000) / 0x400 = lead by omega,
    show 0xDC00 + (n - 0x10000) % 0x400 = trail by omega, hn] at h

/-- The units of a string that has a text stand for this text. -/
theorem denotes_of_unitsText? {units : List JsonUnit} (hunits : ∀ n, .code n ∈ units → n < 0x10000)
    (h : unitsText? units = some s) : Denotes units s := by
  -- the cases are those of the reader; three of them give no text
  induction units using unitsText?.induct generalizing s with
  | case1 =>
    cases h
    exact .nil
  | case2 c units ih =>
    obtain ⟨t, ht, rfl⟩ := Option.map_eq_some_iff.1 h
    exact .cons .char (ih (fun n hn => hunits n (List.mem_cons_of_mem _ hn)) ht)
  | case3 lead trail units hlead htrail ih =>
    rw [unitsText?, if_pos hlead, if_pos htrail] at h
    obtain ⟨t, ht, rfl⟩ := Option.map_eq_some_iff.1 h
    refine .cons (standsFor_of_pair hlead htrail) (ih (fun n hn => hunits n ?_) ht)
    exact List.mem_cons_of_mem _ (List.mem_cons_of_mem _ hn)
  | case4 lead trail units hlead htrail =>
    rw [unitsText?, if_pos hlead, if_neg htrail] at h
    cases h
  | case5 lead trail units hlead htrail =>
    rw [unitsText?, if_neg hlead, if_pos htrail] at h
    cases h
  | case6 lead trail units hlead htrail ih =>
    rw [unitsText?, if_neg hlead, if_neg htrail] at h
    obtain ⟨t, ht, rfl⟩ := Option.map_eq_some_iff.1 h
    exact .cons
      (standsFor_of_code (hunits lead (List.mem_cons_self ..)) (Bool.eq_false_iff.2 hlead)
        (Bool.eq_false_iff.2 htrail))
      (ih (fun n hn => hunits n (List.mem_cons_of_mem _ hn)) ht)
  | case7 unit units hlast hhalf =>
    rw [unitsText?, if_pos hhalf] at h
    · cases h
    · exact hlast
  | case8 unit units hlast hhalf ih =>
    rw [Bool.not_eq_true, Bool.or_eq_false_iff] at hhalf
    rw [unitsText?_code hhalf.1 hhalf.2] at h
    obtain ⟨t, ht, rfl⟩ := Option.map_eq_some_iff.1 h
    exact .cons (standsFor_of_code (hunits unit (List.mem_cons_self ..)) hhalf.1 hhalf.2)
      (ih (fun n hn => hunits n (List.mem_cons_of_mem _ hn)) ht)
  | case9 units => cases h

end Json

end ScriptBundle
