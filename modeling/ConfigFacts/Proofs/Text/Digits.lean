import ConfigFacts.Proofs.Double.Numeral
import ConfigFacts.Text.Digits
import Mathlib.Data.List.Induction
import Mathlib.Logic.Function.Basic

/-!
# Decimal notation

A run of decimal digits denotes one number (`Text.natural?_eq_some_iff`), and zeros in front do not
change it (`Text.denotes_padded`). Without them the digits are told by the number
(`Text.eq_toDigits_of_denotes`).
-/

namespace ConfigFacts.Text

/-- A text has nothing but digits, at least one, and their value is a number. -/
structure Denotes (s : List Char) (n : Nat) : Prop where
  nonempty : s ≠ []
  digits : ∀ c ∈ s, c.isDigit
  value : Nat.ofDigitChars 10 s 0 = n

/-- A number in decimal notation behind zeros. -/
def padded (zeros n : Nat) : List Char :=
  List.replicate zeros '0' ++ Nat.toDigits 10 n

/-- The texts that are read as a number are those that denote it. -/
theorem natural?_eq_some_iff {s : List Char} {n : Nat} : natural? s = some n ↔ Denotes s n := by
  unfold natural?
  split
  next run =>
    obtain ⟨nonempty, digits⟩ := run
    rw [Option.some_inj]
    exact ⟨fun value => ⟨nonempty, List.all_eq_true.1 digits, value⟩, Denotes.value⟩
  next none =>
    refine ⟨nofun, fun denotes => absurd ?_ none⟩
    exact ⟨denotes.nonempty, List.all_eq_true.2 denotes.digits⟩

/-- Digits with zeros in front denote the number that they are. -/
theorem denotes_padded (zeros n : Nat) : Denotes (padded zeros n) n where
  nonempty := List.append_ne_nil_of_right_ne_nil _ Nat.toDigits_ne_nil
  digits c member := by
    rcases List.mem_append.1 member with zero | digit
    · rw [List.eq_of_mem_replicate zero]
      rfl
    · exact isDigit_of_mem_toDigits digit
  value := by
    rw [padded, Nat.ofDigitChars_append, Nat.ofDigitChars_replicate_zero, Nat.mul_zero,
      Nat.ofDigitChars_ten_toDigits]

/-- A number is read from its own digits. -/
theorem natural?_toDigits (n : Nat) : natural? (Nat.toDigits 10 n) = some n :=
  natural?_eq_some_iff.2 (denotes_padded 0 n)

/-- Numbers are told apart by their digits. -/
theorem toDigits_injective : Function.Injective (Nat.toDigits 10) := by
  have read : Function.LeftInverse (fun s => Nat.ofDigitChars 10 s 0) (Nat.toDigits 10) :=
    fun _ => Nat.ofDigitChars_ten_toDigits
  exact read.injective

/-- A digit is the text of the number that it stands for. -/
theorem toDigits_of_isDigit {c : Char} (digit : c.isDigit) :
    c.toNat - '0'.toNat < 10 ∧ Nat.toDigits 10 (c.toNat - '0'.toNat) = [c] := by
  obtain ⟨low, high⟩ := Char.isDigit_iff_toNat.1 digit
  have zero : '0'.toNat = 48 := rfl
  have nine : '9'.toNat = 57 := rfl
  have spelled : ∀ k < 10, Nat.digitChar k = Char.ofNat (48 + k) := by decide
  have small : c.toNat - '0'.toNat < 10 := by omega
  refine ⟨small, ?_⟩
  rw [Nat.toDigits_of_lt_base small, spelled _ small, zero, Nat.add_sub_cancel' (zero ▸ low),
    Char.ofNat_toNat]

/-- Digits without zeros in front are those of their number. -/
theorem eq_toDigits_of_denotes {s : List Char} {n : Nat} (denotes : Denotes s n)
    (unpadded : s.head? = some '0' → s = ['0']) : s = Nat.toDigits 10 n := by
  induction s using List.reverseRecOn generalizing n with
  | nil => exact absurd rfl denotes.nonempty
  | append_singleton front c ih =>
      obtain ⟨-, digits, rfl⟩ := denotes
      obtain ⟨small, spelled⟩ := toDigits_of_isDigit (digits c (by simp))
      rw [Nat.ofDigitChars_append, Nat.ofDigitChars_cons, Nat.ofDigitChars_nil]
      by_cases empty : front = []
      · rw [empty, List.nil_append, Nat.ofDigitChars_nil, Nat.mul_zero, Nat.zero_add, spelled]
      · -- The digits in front do not start with a zero, so they are not those of zero.
        have first : front.head? ≠ some '0' := by
          intro zero
          have lone := unpadded (by rw [List.head?_append, zero, Option.some_or])
          exact empty (by simpa using congrArg List.length lone)
        have before := ih ⟨empty, fun d member => digits d (by simp [member]), rfl⟩
          fun zero => absurd zero first
        have positive : 0 < Nat.ofDigitChars 10 front 0 := by
          refine Nat.pos_of_ne_zero fun zero => first ?_
          rw [before, zero]
          rfl
        rw [← Nat.toDigits_append_toDigits (by decide) positive small, spelled, ← before]

end ConfigFacts.Text
