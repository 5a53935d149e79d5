/-
# Texts read back from their bytes

The bytes of a text are read back as its characters, whatever bytes stand behind them.

## Main content

- `Utf8.foldl_step_encodeChar`: the bytes of a character are read as this character.
- `Utf8.symbols_encode_append`: the bytes of a text are read as its characters, and what stands
  behind them is read as if it stood alone.
- `Utf8.exists_symbol_of_byte`: a byte that is not one of some small characters is not read as one.
-/
import ScriptBundle.Text.Utf8

namespace ScriptBundle

namespace Utf8

variable {n : Nat} {found : List (Option Char)} {p : Pending}

/-! ## Single bytes -/

/-- A byte by its number. -/
theorem toNat_byte (h : n < 256) : (UInt8.ofNat n).toNat = n := by
  rw [UInt8.toNat_ofNat', Nat.mod_eq_of_lt h]

/-- A byte that is a character of its own. -/
theorem step_one (h : n < 0x80) :
    Reading.step ⟨found, none⟩ (UInt8.ofNat n) = ⟨some (Char.ofNat n) :: found, none⟩ := by
  have hbyte := toNat_byte (show n < 256 by omega)
  simp only [Reading.step, Reading.begin, start, UInt8.lt_iff_toNat_lt, hbyte, UInt8.toNat_ofNat]
  rw [if_pos (by omega)]

/-- A byte that announces one more. -/
theorem step_two (h : 0xC2 ≤ n) (h' : n < 0xE0) :
    Reading.step ⟨found, none⟩ (UInt8.ofNat n) =
      ⟨found, some ⟨1, 0x80, 0xBF, n - 0xC0⟩⟩ := by
  have hbyte := toNat_byte (show n < 256 by omega)
  simp only [Reading.step, Reading.begin, start, UInt8.lt_iff_toNat_lt, hbyte, UInt8.toNat_ofNat]
  rw [if_neg (by omega), if_neg (by omega), if_pos (by omega)]

/-- A byte that announces two more. -/
theorem step_three (h : 0xE0 ≤ n) (h' : n < 0xF0) :
    Reading.step ⟨found, none⟩ (UInt8.ofNat n) =
      ⟨found, some ⟨2, if n = 0xE0 then 0xA0 else 0x80, if n = 0xED then 0x9F else 0xBF,
        n - 0xE0⟩⟩ := by
  have hbyte := toNat_byte (show n < 256 by omega)
  simp only [Reading.step, Reading.begin, start, UInt8.lt_iff_toNat_lt, ← UInt8.toNat_inj, hbyte,
    UInt8.toNat_ofNat]
  rw [if_neg (by omega), if_neg (by omega), if_neg (by omega), if_pos (by omega)]

/-- A byte that announces three more. -/
theorem step_four (h : 0xF0 ≤ n) (h' : n < 0xF5) :
    Reading.step ⟨found, none⟩ (UInt8.ofNat n) =
      ⟨found, some ⟨3, if n = 0xF0 then 0x90 else 0x80, if n = 0xF4 then 0x8F else 0xBF,
        n - 0xF0⟩⟩ := by
  have hbyte := toNat_byte (show n < 256 by omega)
  simp only [Reading.step, Reading.begin, start, UInt8.lt_iff_toNat_lt, ← UInt8.toNat_inj, hbyte,
    UInt8.toNat_ofNat]
  rw [if_neg (by omega), if_neg (by omega), if_neg (by omega), if_neg (by omega),
    if_pos (by omega)]

/-- The last byte of a sequence completes its character. -/
theorem step_last {least greatest : UInt8} {bits : Nat} (h : least.toNat ≤ n)
    (h' : n ≤ greatest.toNat) :
    Reading.step ⟨found, some ⟨1, least, greatest, bits⟩⟩ (UInt8.ofNat n) =
      ⟨some (Char.ofNat (bits * 64 + (n - 0x80))) :: found, none⟩ := by
  have hbyte := toNat_byte (Nat.lt_of_le_of_lt h' greatest.toNat_lt)
  simp only [Reading.step, UInt8.le_iff_toNat_le, hbyte]
  rw [if_pos ⟨h, h'⟩, if_pos (Nat.le_refl 1)]

/-- Any other byte of a sequence adds its bits. -/
theorem step_next {missing : Nat} {least greatest : UInt8} {bits : Nat} (h : least.toNat ≤ n)
    (h' : n ≤ greatest.toNat) :
    Reading.step ⟨found, some ⟨missing + 2, least, greatest, bits⟩⟩ (UInt8.ofNat n) =
      ⟨found, some ⟨missing + 1, 0x80, 0xBF, bits * 64 + (n - 0x80)⟩⟩ := by
  have hbyte := toNat_byte (Nat.lt_of_le_of_lt h' greatest.toNat_lt)
  simp only [Reading.step, UInt8.le_iff_toNat_le, hbyte]
  rw [if_pos ⟨h, h'⟩, if_neg (by omega)]
  rfl

/-! ## Sequences -/

variable {a b c d : Nat}

/-- A sequence of two bytes. -/
theorem foldl_step_two (ha : 2 ≤ a) (ha' : a < 32) (hb : b < 64) :
    [UInt8.ofNat (a + 0xC0), UInt8.ofNat (b + 0x80)].foldl Reading.step ⟨found, none⟩ =
      ⟨some (Char.ofNat (a * 64 + b)) :: found, none⟩ := by
  rw [List.foldl_cons, step_two (by omega) (by omega), List.foldl_cons,
    step_last (show 128 ≤ _ by omega) (show _ ≤ 191 by omega), List.foldl_nil]
  simp only [Nat.add_sub_cancel]

/-- A sequence of three bytes. -/
theorem foldl_step_three (ha : a < 16) (hb : b < 64) (hc : c < 64) (hlow : a = 0 → 32 ≤ b)
    (hhigh : a = 13 → b < 32) :
    [UInt8.ofNat (a + 0xE0), UInt8.ofNat (b + 0x80), UInt8.ofNat (c + 0x80)].foldl
        Reading.step ⟨found, none⟩ =
      ⟨some (Char.ofNat ((a * 64 + b) * 64 + c)) :: found, none⟩ := by
  have hleast : (if a + 0xE0 = 0xE0 then 0xA0 else 0x80 : UInt8).toNat ≤ b + 0x80 := by
    split
    · exact show 160 ≤ _ by omega
    · exact show 128 ≤ _ by omega
  have hgreatest : b + 0x80 ≤ (if a + 0xE0 = 0xED then 0x9F else 0xBF : UInt8).toNat := by
    split
    · exact show _ ≤ 159 by omega
    · exact show _ ≤ 191 by omega
  rw [List.foldl_cons, step_three (by omega) (by omega), List.foldl_cons,
    step_next hleast hgreatest, List.foldl_cons,
    step_last (show 128 ≤ _ by omega) (show _ ≤ 191 by omega), List.foldl_nil]
  simp only [Nat.add_sub_cancel]

/-- A sequence of four bytes. -/
theorem foldl_step_four (ha : a < 5) (hb : b < 64) (hc : c < 64) (hd : d < 64)
    (hlow : a = 0 → 16 ≤ b) (hhigh : a = 4 → b < 16) :
    [UInt8.ofNat (a + 0xF0), UInt8.ofNat (b + 0x80), UInt8.ofNat (c + 0x80),
        UInt8.ofNat (d + 0x80)].foldl Reading.step ⟨found, none⟩ =
      ⟨some (Char.ofNat (((a * 64 + b) * 64 + c) * 64 + d)) :: found, none⟩ := by
  have hleast : (if a + 0xF0 = 0xF0 then 0x90 else 0x80 : UInt8).toNat ≤ b + 0x80 := by
    split
    · exact show 144 ≤ _ by omega
    · exact show 128 ≤ _ by omega
  have hgreatest : b + 0x80 ≤ (if a + 0xF0 = 0xF4 then 0x8F else 0xBF : UInt8).toNat := by
    split
    · exact show _ ≤ 143 by omega
    · exact show _ ≤ 191 by omega
  rw [List.foldl_cons, step_four (by omega) (by omega), List.foldl_cons,
    step_next hleast hgreatest, List.foldl_cons,
    step_next (show 128 ≤ _ by omega) (show _ ≤ 191 by omega), List.foldl_cons,
    step_last (show 128 ≤ _ by omega) (show _ ≤ 191 by omega), List.foldl_nil]
  simp only [Nat.add_sub_cancel]

/-- The bytes of a character are read as this character. -/
theorem foldl_step_encodeChar (c : Char) :
    (String.utf8EncodeChar c).foldl Reading.step ⟨found, none⟩ = ⟨some c :: found, none⟩ := by
  obtain ⟨v, hv⟩ : ∃ v, v = c.val.toNat := ⟨_, rfl⟩
  have hc : Char.ofNat v = c := by
    rw [hv]
    exact Char.ofNat_toNat c
  have hvalid : v < 0xD800 ∨ 0xDFFF < v ∧ v < 0x110000 := by
    rw [hv]
    exact c.valid
  simp only [String.utf8EncodeChar, ← hv]
  split
  · rw [List.foldl_cons, step_one (by omega), hc, List.foldl_nil]
  split
  · rw [foldl_step_two (by omega) (by omega) (by omega),
      show v / 64 % 32 * 64 + v % 64 = v by omega, hc]
  split
  · rw [foldl_step_three (by omega) (by omega) (by omega) (by omega) (by omega),
      show (v / 4096 % 16 * 64 + v / 64 % 64) * 64 + v % 64 = v by omega, hc]
  · rw [foldl_step_four (by omega) (by omega) (by omega) (by omega) (by omega) (by omega),
      show ((v / 262144 % 8 * 64 + v / 4096 % 64) * 64 + v / 64 % 64) * 64 + v % 64 = v by omega,
      hc]

/-- The bytes of a text are read as its characters. -/
theorem foldl_step_encode (s : Text) :
    (encode s).foldl Reading.step ⟨found, none⟩ = ⟨(s.map some).reverse ++ found, none⟩ := by
  induction s generalizing found with
  | nil => rfl
  | cons c s ih =>
    show (String.utf8EncodeChar c ++ encode s).foldl _ _ = _
    rw [List.foldl_append, foldl_step_encodeChar, ih]
    simp

/-! ## What stands behind a text -/

/-- A reading with some symbols found further back. -/
def Reading.behind (r : Reading) (back : List (Option Char)) : Reading :=
  ⟨r.found ++ back, r.pending⟩

/-- What was found before does not change what a byte adds. -/
theorem step_behind (r : Reading) (back : List (Option Char)) (byte : UInt8) :
    (r.behind back).step byte = (r.step byte).behind back := by
  obtain ⟨found, pending⟩ := r
  have hbegin : ∀ found, Reading.begin (found ++ back) byte = (Reading.begin found byte).behind back := by
    intro found
    unfold Reading.begin
    split <;> rfl
  cases pending with
  | none => exact hbegin found
  | some p =>
    simp only [Reading.behind, Reading.step]
    split
    · split <;> rfl
    · exact hbegin (none :: found)

/-- What was found before does not change what bytes add. -/
theorem foldl_step_behind (bytes : Bytes) (r : Reading) (back : List (Option Char)) :
    bytes.foldl Reading.step (r.behind back) = (bytes.foldl Reading.step r).behind back := by
  induction bytes generalizing r with
  | nil => rfl
  | cons byte bytes ih => rw [List.foldl_cons, step_behind, ih, List.foldl_cons]

/-- The bytes of a text are read as its characters, and what stands behind them is read as if it
stood alone. -/
theorem symbols_encode_append (s : Text) (bytes : Bytes) :
    symbols (encode s ++ bytes) = s.map some ++ symbols bytes := by
  have hread : (encode s ++ bytes).foldl Reading.step {} =
      (bytes.foldl Reading.step {}).behind (s.map some).reverse := by
    rw [List.foldl_append, foldl_step_encode, List.append_nil, ← foldl_step_behind]
    rfl
  rw [symbols, hread, symbols]
  generalize bytes.foldl Reading.step {} = r
  obtain ⟨found, pending⟩ := r
  cases pending <;> simp [Reading.behind, Reading.finish]

/-- The bytes of a text are read as its characters. -/
theorem symbols_encode (s : Text) : symbols (encode s) = s.map some := by
  have h := symbols_encode_append s []
  rwa [List.append_nil, show symbols [] = [] from rfl, List.append_nil] at h

/-! ## Bytes that show -/

/-- What was found is not lost. -/
theorem mem_finish_of_mem_found {r : Reading} {symbol : Option Char} (h : symbol ∈ r.found)
    (bytes : Bytes) : symbol ∈ (bytes.foldl Reading.step r).finish := by
  have hback : r = (⟨[], r.pending⟩ : Reading).behind r.found := rfl
  rw [hback, foldl_step_behind]
  generalize bytes.foldl Reading.step ⟨[], r.pending⟩ = r'
  obtain ⟨found', pending'⟩ := r'
  cases pending' <;> simp [Reading.behind, Reading.finish, h]

/-- An open sequence that cannot end in a number below 64. -/
def Pending.IsHigh (p : Pending) : Prop := 1 ≤ p.bits ∨ 2 ≤ p.missing ∧ 0x80 < p.least.toNat

/-- A byte from 0x80 on is malformed, or begins a sequence that cannot end in a small number. -/
theorem start_high {byte : UInt8} (h : 0x80 ≤ byte.toNat) :
    start byte = .inl none ∨ ∃ p, start byte = .inr p ∧ p.IsHigh := by
  simp only [start, UInt8.lt_iff_toNat_lt, ← UInt8.toNat_inj, UInt8.toNat_ofNat]
  rw [if_neg (by omega)]
  split
  · exact .inl rfl
  split
  · exact .inr ⟨_, rfl, .inl (show 1 ≤ byte.toNat - 0xC0 by omega)⟩
  split
  · refine .inr ⟨_, rfl, ?_⟩
    by_cases hleast : byte.toNat = 0xE0
    · exact .inr ⟨Nat.le_refl 2, by simp [hleast]⟩
    · exact .inl (show 1 ≤ byte.toNat - 0xE0 by omega)
  split
  · refine .inr ⟨_, rfl, ?_⟩
    by_cases hleast : byte.toNat = 0xF0
    · exact .inr ⟨show 2 ≤ 3 by decide, by simp [hleast]⟩
    · exact .inl (show 1 ≤ byte.toNat - 0xF0 by omega)
  · exact .inl rfl

section

variable {shows : Option Char → Prop} (hgap : shows none)
  (hhigh : ∀ n, 64 ≤ n → shows (some (Char.ofNat n)))

include hgap hhigh

/-- An open sequence that cannot end in a small number leaves a symbol that shows. -/
theorem exists_symbol_of_isHigh (bytes : Bytes) (hp : p.IsHigh) :
    ∃ symbol ∈ (bytes.foldl Reading.step ⟨found, some p⟩).finish, shows symbol := by
  induction bytes generalizing p with
  | nil => exact ⟨none, by simp [Reading.finish], hgap⟩
  | cons byte bytes ih =>
    rw [List.foldl_cons]
    by_cases hrange : p.least ≤ byte ∧ byte ≤ p.greatest
    · have hleast := UInt8.le_iff_toNat_le.1 hrange.1
      simp only [Reading.step, if_pos hrange]
      split
      · next hmissing =>
        -- this byte ends the sequence
        have hbits : 1 ≤ p.bits := hp.resolve_right fun h => by omega
        exact ⟨_, mem_finish_of_mem_found (List.mem_cons_self ..) _, hhigh _ (by omega)⟩
      · apply ih
        rcases hp with hbits | ⟨-, hlow⟩
        · exact .inl (show 1 ≤ p.bits * 64 + (byte.toNat - 0x80) by omega)
        · exact .inl (show 1 ≤ p.bits * 64 + (byte.toNat - 0x80) by omega)
    · have hfound : none ∈ (Reading.begin (none :: found) byte).found := by
        unfold Reading.begin
        split <;> simp
      simp only [Reading.step, if_neg hrange]
      exact ⟨none, mem_finish_of_mem_found hfound _, hgap⟩

/-- If a byte shows, so does a symbol that is read. -/
theorem exists_symbol_of_byte {bytes : Bytes}
    (h : ∃ byte ∈ bytes, byte.toNat < 0x80 → shows (some (Char.ofNat byte.toNat))) :
    ∃ symbol ∈ symbols bytes, shows symbol := by
  suffices hfound : ∀ found, ∃ symbol ∈ (bytes.foldl Reading.step ⟨found, none⟩).finish,
      shows symbol from hfound []
  induction bytes with
  | nil =>
    obtain ⟨byte, hmem, -⟩ := h
    cases hmem
  | cons byte bytes ih =>
    intro found
    rw [List.foldl_cons]
    rcases Nat.lt_or_ge byte.toNat 0x80 with hlow | hlow
    · have hstep : Reading.step ⟨found, none⟩ (UInt8.ofNat byte.toNat) = _ := step_one hlow
      rw [UInt8.ofNat_toNat] at hstep
      rw [hstep]
      by_cases hshows : shows (some (Char.ofNat byte.toNat))
      · exact ⟨_, mem_finish_of_mem_found (List.mem_cons_self ..) _, hshows⟩
      · apply ih
        obtain ⟨other, hmem, hother⟩ := h
        rcases List.mem_cons.1 hmem with rfl | hmem
        · exact absurd (hother hlow) hshows
        · exact ⟨other, hmem, hother⟩
    · simp only [Reading.step, Reading.begin]
      rcases start_high hlow with hstart | ⟨p, hstart, hp⟩
      · rw [hstart]
        exact ⟨none, mem_finish_of_mem_found (List.mem_cons_self ..) _, hgap⟩
      · rw [hstart]
        exact exists_symbol_of_isHigh hgap hhigh bytes hp

end

end Utf8

end ScriptBundle
