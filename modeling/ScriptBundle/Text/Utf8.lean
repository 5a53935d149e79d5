/-
# The UTF-8 form of texts

Files hold bytes.  This file writes texts as UTF-8 and reads bytes back, either strictly or with a
replacement character for what is malformed.

## Main content

- `encode` writes a text.
- `symbols` reads any bytes: a character for every well-formed sequence, and one gap for every
  longest malformed piece.
- `decode?` accepts only bytes without a gap, and `decodeLossy` puts U+FFFD into the gaps.
-/
import ScriptBundle.Text.Basic

namespace ScriptBundle

/-- Bytes as they are kept in files. -/
abbrev Bytes := List UInt8

namespace Utf8

/-- The bytes of a text. -/
def encode (s : Text) : Bytes := s.flatMap String.utf8EncodeChar

/-- How many bytes a text takes. -/
def size (s : Text) : Nat := s.foldr (fun c n => c.utf8Size + n) 0

/-! ## Bytes as characters -/

/-- Every byte as the character with its number.  Programs that work byte by byte work on texts of
this form. -/
def spread (bytes : Bytes) : Text := bytes.map fun byte => Char.ofNat byte.toNat

/-- The bytes that characters below U+0100 stand for. -/
def gather (s : Text) : Bytes := s.map fun c => UInt8.ofNat c.toNat

/-- A byte comes back from its character. -/
theorem ofNat_toNat_ofNat (byte : UInt8) : UInt8.ofNat (Char.ofNat byte.toNat).toNat = byte := by
  have h : byte.toNat.isValidChar := Or.inl (Nat.lt_of_lt_of_le byte.toNat_lt (by decide))
  rw [Char.ofNat, dif_pos h]
  show UInt8.ofNat byte.toNat = byte
  simp

/-- Gathering takes spreading back. -/
theorem gather_spread (bytes : Bytes) : gather (spread bytes) = bytes := by
  induction bytes with
  | nil => rfl
  | cons byte bytes ih =>
    show UInt8.ofNat (Char.ofNat byte.toNat).toNat :: gather (spread bytes) = _
    rw [ih, ofNat_toNat_ofNat]

/-! ## Reading byte by byte -/

/-- A sequence that has begun and waits for continuation bytes. -/
structure Pending where
  /-- How many continuation bytes are missing. -/
  missing : Nat
  /-- The least value the next byte may have. -/
  least : UInt8
  /-- The greatest value the next byte may have. -/
  greatest : UInt8
  /-- The bits read so far. -/
  bits : Nat

/-- What the first byte of a sequence announces: a character of its own, a longer sequence, or
nothing well-formed.  The bounds for the second byte keep out overlong forms, surrogates and
numbers above U+10FFFF. -/
def start (b : UInt8) : Option Char ⊕ Pending :=
  if b < 0x80 then .inl (some (Char.ofNat b.toNat))
  else if b < 0xC2 then .inl none
  else if b < 0xE0 then .inr ⟨1, 0x80, 0xBF, b.toNat - 0xC0⟩
  else if b < 0xF0 then
    .inr ⟨2, if b = 0xE0 then 0xA0 else 0x80, if b = 0xED then 0x9F else 0xBF, b.toNat - 0xE0⟩
  else if b < 0xF5 then
    .inr ⟨3, if b = 0xF0 then 0x90 else 0x80, if b = 0xF4 then 0x8F else 0xBF, b.toNat - 0xF0⟩
  else .inl none

/-- A reading in progress: the symbols found so far, newest first, and the open sequence. -/
structure Reading where
  /-- The symbols found so far, newest first. -/
  found : List (Option Char) := []
  /-- The sequence that waits for more bytes. -/
  pending : Option Pending := none

/-- Takes a byte that begins a sequence. -/
def Reading.begin (found : List (Option Char)) (b : UInt8) : Reading :=
  match start b with
  | .inl symbol => ⟨symbol :: found, none⟩
  | .inr pending => ⟨found, some pending⟩

/-- Takes one byte.  A byte that cannot continue the open sequence leaves a gap in its place and
begins anew. -/
def Reading.step (r : Reading) (b : UInt8) : Reading :=
  match r.pending with
  | none => Reading.begin r.found b
  | some p =>
    if p.least ≤ b ∧ b ≤ p.greatest then
      let bits := p.bits * 64 + (b.toNat - 0x80)
      if p.missing ≤ 1 then ⟨some (Char.ofNat bits) :: r.found, none⟩
      else ⟨r.found, some ⟨p.missing - 1, 0x80, 0xBF, bits⟩⟩
    else Reading.begin (none :: r.found) b

/-- The symbols in reading order, with a gap for a sequence that never ended. -/
def Reading.finish (r : Reading) : List (Option Char) :=
  (match r.pending with
    | none => r.found
    | some _ => none :: r.found).reverse

/-! ## Reading whole files -/

/-- The characters of a byte sequence, with a gap for every longest malformed piece. -/
def symbols (bytes : Bytes) : List (Option Char) := (bytes.foldl Reading.step {}).finish

/-- The text of well-formed bytes. -/
def decode? (bytes : Bytes) : Option Text := (symbols bytes).mapM id

/-- The text of any bytes, with U+FFFD for every gap. -/
def decodeLossy (bytes : Bytes) : Text := (symbols bytes).map (·.getD '\uFFFD')

/-- A text as programs see it that work byte by byte. -/
def narrow (s : Text) : Text := spread (encode s)

/-- The text that a program means that works byte by byte. -/
def widen (s : Text) : Text := decodeLossy (gather s)

-- a cut sequence is one gap, and the byte behind it stands for itself
example : symbols [0xE2, 0x82, 0x22] = [none, some '"'] := by decide

-- surrogates have no form in bytes
example : decode? [0xED, 0xA0, 0x80] = none := by decide

end Utf8

end ScriptBundle
