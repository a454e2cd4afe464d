/-!
# The order of bytes

Texts are compared character by character, and file systems compare names byte by byte. Both orders
are the same (`Text.bytes_lt_iff`): the bytes of a character are its number in base 64 behind a byte
that grows with their count (`Text.encodeChar_digits`), so the bytes of characters compare as the
characters do, whatever follows them (`Text.encodeChar_append_lt`).
-/

namespace ConfigFacts.Text

/-- The bytes of a text. -/
def bytes (s : String) : List UInt8 :=
  s.toByteArray.data.toList

private theorem bytes_eq_flatMap (s : String) :
    bytes s = s.toList.flatMap String.utf8EncodeChar := by
  unfold bytes
  rw [← s.utf8Encode_toList]
  exact List.toList_data_toByteArray

/-- A character is written as one byte, or as a first byte that tells how many follow and the digits
of its number in base 64. -/
theorem encodeChar_digits (c : Char) :
    (c.toNat < 128 ∧ String.utf8EncodeChar c = [.ofNat c.toNat]) ∨
      (∃ x y, 2 ≤ x ∧ x < 32 ∧ y < 64 ∧ c.toNat = 64 * x + y ∧
        String.utf8EncodeChar c = [.ofNat (x + 192), .ofNat (y + 128)]) ∨
      (∃ x y z, 0x800 ≤ c.toNat ∧ x < 16 ∧ y < 64 ∧ z < 64 ∧ c.toNat = 4096 * x + 64 * y + z ∧
        String.utf8EncodeChar c = [.ofNat (x + 224), .ofNat (y + 128), .ofNat (z + 128)]) ∨
      ∃ w x y z, 0x10000 ≤ c.toNat ∧ w < 5 ∧ x < 64 ∧ y < 64 ∧ z < 64 ∧
        c.toNat = 262144 * w + 4096 * x + 64 * y + z ∧
        String.utf8EncodeChar c =
          [.ofNat (w + 240), .ofNat (x + 128), .ofNat (y + 128), .ofNat (z + 128)] := by
  have small : c.toNat < 0x110000 := by
    rcases c.valid with low | high
    · exact Nat.lt_trans low (by decide)
    · exact high.2
  have spelled : String.utf8EncodeChar c =
      if c.toNat ≤ 0x7f then [.ofNat c.toNat]
      else if c.toNat ≤ 0x7ff then
        [.ofNat (c.toNat / 64 % 32 + 192), .ofNat (c.toNat % 64 + 128)]
      else if c.toNat ≤ 0xffff then
        [.ofNat (c.toNat / 4096 % 16 + 224), .ofNat (c.toNat / 64 % 64 + 128),
          .ofNat (c.toNat % 64 + 128)]
      else
        [.ofNat (c.toNat / 262144 % 8 + 240), .ofNat (c.toNat / 4096 % 64 + 128),
          .ofNat (c.toNat / 64 % 64 + 128), .ofNat (c.toNat % 64 + 128)] := rfl
  rw [spelled]
  split
  · exact .inl ⟨by omega, rfl⟩
  split
  · exact .inr (.inl ⟨_, _, by omega, by omega, by omega, by omega, rfl⟩)
  split
  · exact .inr (.inr (.inl ⟨_, _, _, by omega, by omega, by omega, by omega, by omega, rfl⟩))
  · exact .inr (.inr (.inr ⟨_, _, _, _, by omega, by omega, by omega, by omega, by omega, by omega,
      rfl⟩))

/-- The bytes of a smaller character come first, whatever is behind them. -/
theorem encodeChar_append_lt {c d : Char} (less : c < d) (xs ys : List UInt8) :
    String.utf8EncodeChar c ++ xs < String.utf8EncodeChar d ++ ys := by
  have numbers : c.toNat < d.toNat := less
  have byte {m n : Nat} : UInt8.ofNat m < UInt8.ofNat n ↔ m % 256 < n % 256 := by
    rw [UInt8.lt_iff_toNat_lt, UInt8.toNat_ofNat', UInt8.toNat_ofNat']
  have same {m n : Nat} : UInt8.ofNat m = UInt8.ofNat n ↔ m % 256 = n % 256 := by
    rw [← UInt8.toNat_inj, UInt8.toNat_ofNat', UInt8.toNat_ofNat']
  -- Fewer bytes start with a smaller one; as many bytes differ first where the digits do.
  rcases encodeChar_digits c with ⟨_, left⟩ | ⟨_, _, _, _, _, _, left⟩ |
      ⟨_, _, _, _, _, _, _, _, left⟩ | ⟨_, _, _, _, _, _, _, _, _, _, left⟩ <;>
    rcases encodeChar_digits d with ⟨_, right⟩ | ⟨_, _, _, _, _, _, right⟩ |
        ⟨_, _, _, _, _, _, _, _, right⟩ | ⟨_, _, _, _, _, _, _, _, _, _, right⟩ <;>
      simp only [left, right, List.cons_append, List.nil_append, List.cons_lt_cons_iff, byte,
        same] <;>
      omega

/-- The bytes of the smaller one of two lists of characters come first. -/
theorem flatMap_encodeChar_lt {cs ds : List Char} (less : cs < ds) :
    cs.flatMap String.utf8EncodeChar < ds.flatMap String.utf8EncodeChar := by
  induction cs generalizing ds with
  | nil =>
      cases ds with
      | nil => exact absurd less (List.not_lt_nil _)
      | cons d ds =>
          rw [List.flatMap_nil, List.flatMap_cons]
          obtain ⟨b, bs, first⟩ := List.exists_cons_of_ne_nil (String.utf8EncodeChar_ne_nil (c := d))
          rw [first]
          exact List.nil_lt_cons _ _
  | cons c cs ih =>
      cases ds with
      | nil => exact absurd less (List.not_lt_nil _)
      | cons d ds =>
          rw [List.flatMap_cons, List.flatMap_cons]
          rcases List.cons_lt_cons_iff.1 less with smaller | ⟨rfl, rest⟩
          · exact encodeChar_append_lt smaller _ _
          · exact List.append_left_lt (ih rest)

/-- Texts compare as their bytes do. -/
theorem bytes_lt_iff {s t : String} : bytes s < bytes t ↔ s < t := by
  have forward {s t : String} (less : s < t) : bytes s < bytes t := by
    rw [bytes_eq_flatMap, bytes_eq_flatMap]
    exact flatMap_encodeChar_lt less
  refine ⟨fun less => ?_, forward⟩
  apply Classical.byContradiction
  intro notLess
  rcases Classical.em (s = t) with rfl | different
  · exact List.lt_irrefl _ less
  · exact List.lt_asymm less (forward (Std.lt_of_le_of_ne notLess (Ne.symm different)))

end ConfigFacts.Text
