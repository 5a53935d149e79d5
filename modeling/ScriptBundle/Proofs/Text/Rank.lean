/-
# Texts by their numbers

The bytes of a text are the digits of a number, below a leading one.  Different texts have different
numbers, and a short text has a small number, so there are only so many short texts.

## Main content

- `Utf8.encode_injective`: different texts have different bytes.
- `Utf8.rank` is the number of a text; `Utf8.rank_injective` and `Utf8.rank_lt` are its laws.
- `Utf8.exists_list_of_size_lt`: all short texts stand in one list, which is not long.
-/
import Mathlib.Data.Finset.Card
import Mathlib.Data.Nat.Digits.Lemmas
import Mathlib.Data.Set.Finite.Basic
import ScriptBundle.Text.Utf8

namespace ScriptBundle

namespace Utf8

/-- Different texts have different bytes. -/
theorem encode_injective : Function.Injective encode := by
  intro s t h
  have hbytes : s.utf8Encode = t.utf8Encode := by
    unfold List.utf8Encode
    exact congrArg List.toByteArray h
  have hdecode := List.utf8Decode?_utf8Encode (l := s)
  rw [hbytes, List.utf8Decode?_utf8Encode] at hdecode
  simpa using hdecode.symm

/-- A text has as many bytes as it takes. -/
theorem length_encode (s : Text) : (encode s).length = size s := by
  induction s with
  | nil => rfl
  | cons c s ih =>
    show (String.utf8EncodeChar c ++ encode s).length = c.utf8Size + size s
    rw [List.length_append, String.length_utf8EncodeChar, ih]

/-- The digits of a text in base 256, the lowest first. -/
def digits (s : Text) : List Nat := (encode s).map UInt8.toNat ++ [1]

/-- The number of a text. -/
def rank (s : Text) : Nat := Nat.ofDigits 256 (digits s)

/-- The digits of a text are below the base. -/
theorem lt_of_mem_digits {s : Text} {d : Nat} (h : d ∈ digits s) : d < 256 := by
  rcases List.mem_append.1 h with hbyte | hone
  · obtain ⟨byte, -, rfl⟩ := List.mem_map.1 hbyte
    exact byte.toNat_lt
  · rw [List.mem_singleton] at hone
    omega

/-- The digits of a text are those of its number. -/
theorem digits_rank (s : Text) : Nat.digits 256 (rank s) = digits s :=
  Nat.digits_ofDigits 256 (by decide) _ (fun _ => lt_of_mem_digits) fun _ => by simp [digits]

/-- Different texts have different numbers. -/
theorem rank_injective : Function.Injective rank := by
  intro s t h
  have hdigits : digits s = digits t := by rw [← digits_rank, h, digits_rank]
  have hbytes := List.append_cancel_right hdigits
  exact encode_injective (List.map_injective_iff.2 (fun _ _ => UInt8.toNat.inj) hbytes)

/-- No text has the number zero. -/
theorem rank_pos (s : Text) : 0 < rank s := by
  rw [Nat.pos_iff_ne_zero]
  intro h
  have hdigits := digits_rank s
  rw [h, Nat.digits_zero] at hdigits
  exact List.append_ne_nil_of_right_ne_nil _ (List.cons_ne_nil 1 []) hdigits.symm

/-- A short text has a small number. -/
theorem rank_lt {s : Text} {limit : Nat} (h : size s < limit) : rank s < 256 ^ limit := by
  have hlength : (digits s).length ≤ limit := by
    rw [digits, List.length_append, List.length_map, length_encode]
    exact h
  calc rank s < 256 ^ (digits s).length :=
        Nat.ofDigits_lt_base_pow_length (by decide) fun _ => lt_of_mem_digits
    _ ≤ 256 ^ limit := Nat.pow_le_pow_right (by decide) hlength

/-- All texts below a size stand in one list, which is shorter than their numbers are large. -/
theorem exists_list_of_size_lt (limit : Nat) :
    ∃ texts : List Text, (∀ s, size s < limit → s ∈ texts) ∧ texts.length < 256 ^ limit := by
  have hmaps : Set.MapsTo rank {s | size s < limit} (Finset.Ico 1 (256 ^ limit)) := fun s hs =>
    Finset.mem_coe.2 (Finset.mem_Ico.2 ⟨rank_pos s, rank_lt hs⟩)
  have hfinite : {s | size s < limit}.Finite :=
    Set.Finite.of_injOn hmaps rank_injective.injOn (Finset.finite_toSet _)
  refine ⟨hfinite.toFinset.toList, fun s hs => by simpa using hs, ?_⟩
  have hcard : hfinite.toFinset.card ≤ (Finset.Ico 1 (256 ^ limit)).card :=
    Finset.card_le_card_of_injOn rank (by simpa using hmaps) rank_injective.injOn
  have hpos : 0 < 256 ^ limit := Nat.pow_pos (by decide)
  rw [Nat.card_Ico] at hcard
  rw [Finset.length_toList]
  omega

end Utf8

end ScriptBundle
