import ConfigFacts.Proofs.Double.Shortest
import ConfigFacts.Proofs.Text.Digits
import ConfigFacts.Proofs.Json.Numeral

/-!
# Positional and scientific numerals

A decimal is written in positional or in scientific notation. Both denote the number of the decimal
(`Notation.magnitude_plain`, `Notation.magnitude_scientific`), and each has a form of its own
(`Text.IsPositional`, `Text.IsScientific`), by which they are told apart.
-/

namespace ConfigFacts

namespace Text

/-- A nonempty run of digits. -/
def IsDigits (s : List Char) : Prop :=
  s ≠ [] ∧ ∀ c ∈ s, c.isDigit

/-- Digits on both sides of a point. -/
inductive IsPositional : List Char → Prop where
  | mk {whole fraction : List Char} (before : IsDigits whole) (behind : IsDigits fraction) :
      IsPositional (whole ++ '.' :: fraction)

/-- A whole number, with a minus sign if it is negative. -/
inductive IsInteger : List Char → Prop where
  | natural {digits : List Char} (run : IsDigits digits) : IsInteger digits
  | negative {digits : List Char} (run : IsDigits digits) : IsInteger ('-' :: digits)

/-- One digit other than zero, a point, digits, and the power of ten behind its mark. -/
inductive IsScientific (mark : Char) : List Char → Prop where
  | mk {lead : Char} {fraction exponent : List Char} (digit : lead.isDigit) (nonzero : lead ≠ '0')
      (behind : IsDigits fraction) (power : IsInteger exponent) :
      IsScientific mark (lead :: '.' :: (fraction ++ mark :: exponent))

/-- Zeros in front bring the digits of a number to a length. -/
theorem length_padded {length n : Nat} (positive : 0 < length) (small : n < 10 ^ length) :
    (padded (length - (Nat.toDigits 10 n).length) n).length = length := by
  have short := (Nat.length_toDigits_le_iff (by decide) positive).2 small
  rw [padded, List.length_append, List.length_replicate, Nat.sub_add_cancel short]

private theorem isDigits_toDigits (n : Nat) : IsDigits (Nat.toDigits 10 n) :=
  ⟨Nat.toDigits_ne_nil, fun _ => isDigit_of_mem_toDigits⟩

/-- Only scientific notation has a mark. -/
theorem IsPositional.not_isScientific {s : List Char} {mark : Char}
    (letter : mark = 'e' ∨ mark = 'E') (positional : IsPositional s) : ¬ IsScientific mark s := by
  intro scientific
  have free : mark ∉ s := by
    obtain ⟨before, behind⟩ := positional
    intro member
    rcases List.mem_append.1 member with whole | rest
    · have digit := before.2 mark whole
      rcases letter with rfl | rfl <;> cases digit
    · rcases List.mem_cons.1 rest with point | fraction
      · rcases letter with rfl | rfl <;> cases point
      · have digit := behind.2 mark fraction
        rcases letter with rfl | rfl <;> cases digit
  obtain ⟨-, -, -, -⟩ := scientific
  simp at free

end Text

namespace Numeral

/-- The number that a numeral denotes, apart from its sign. -/
def magnitude (n : Numeral) : ℚ :=
  (n.whole + Nat.ofDigitChars 10 n.fraction 0 / 10 ^ n.fraction.length) * 10 ^ n.exponent.getD 0

/-- The numeral without its sign. -/
def unsigned (n : Numeral) : Numeral :=
  { n with negative := false }

/-- A numeral is written as a sign and an unsigned numeral. -/
theorem characters_eq (mark : Char) (plus : Bool) (n : Numeral) :
    n.characters mark plus =
      (if n.negative then ['-'] else []) ++ n.unsigned.characters mark plus := by
  simp [characters, unsigned]

end Numeral

namespace Notation

private theorem magnitude_plain (negative : Bool) (d : Decimal) :
    (plain negative d).magnitude = d.magnitude := by
  unfold plain
  split
  · next whole =>
      obtain ⟨power, exponent⟩ := Int.eq_ofNat_of_zero_le whole
      have zero : Nat.ofDigitChars 10 ['0'] 0 = 0 := rfl
      simp [Numeral.magnitude, Decimal.magnitude, exponent, zero]
  · next fractional =>
      obtain ⟨places, exponent⟩ := Int.eq_ofNat_of_zero_le (show 0 ≤ -d.exponent by omega)
      have positive : 0 < places := by omega
      dsimp only
      rw [exponent, Int.toNat_natCast, Nat.pow_eq]
      generalize split : d.digits % 10 ^ places = behind
      have small : behind < 10 ^ places := split ▸ Nat.mod_lt _ (Nat.pow_pos (by decide))
      have length := Text.length_padded positive small
      have value := (Text.denotes_padded (places - (Nat.toDigits 10 behind).length) behind).value
      have parts : (10 : ℚ) ^ places * (d.digits / 10 ^ places : Nat) + behind = d.digits := by
        rw [← split]
        exact_mod_cast Nat.div_add_mod d.digits (10 ^ places)
      unfold Text.padded at length value
      unfold Numeral.magnitude Decimal.magnitude
      rw [length, value, ← parts, show d.exponent = -places by omega, zpow_neg, zpow_natCast]
      simp only [Option.getD_none, zpow_zero, mul_one]
      field_simp

private theorem scientific_eq {d : Decimal} {lead : Char} {rest : List Char}
    (characters : d.characters = lead :: rest) (padded negative : Bool) :
    scientific padded negative d = ⟨negative, Nat.ofDigitChars 10 [lead] 0,
      if rest.isEmpty && padded then ['0'] else rest, some d.leadingExponent⟩ := by
  unfold scientific
  rw [characters]
  rfl

/-- The digits behind the first one are the fraction, and a zero put there counts nothing. -/
theorem magnitude_scientific (padded negative : Bool) (d : Decimal) :
    (scientific padded negative d).magnitude = d.magnitude := by
  obtain ⟨lead, rest, characters⟩ := List.exists_cons_of_ne_nil (l := d.characters)
    Nat.toDigits_ne_nil
  have digits : d.digits =
      10 ^ rest.length * Nat.ofDigitChars 10 [lead] 0 + Nat.ofDigitChars 10 rest 0 := by
    rw [← Nat.ofDigitChars_eq_ofDigitChars_zero, ← Nat.ofDigitChars_append, List.singleton_append,
      ← characters]
    exact Nat.ofDigitChars_ten_toDigits.symm
  have power : d.leadingExponent = rest.length + d.exponent := by
    rw [Decimal.leadingExponent, characters, List.length_cons]
    omega
  rw [scientific_eq characters]
  generalize written : (if rest.isEmpty && padded then ['0'] else rest) = fraction
  have places : (Nat.ofDigitChars 10 fraction 0 : ℚ) / 10 ^ fraction.length =
      Nat.ofDigitChars 10 rest 0 / 10 ^ rest.length := by
    split at written
    · next empty =>
        have none := List.isEmpty_iff.1 (Bool.and_eq_true_iff.1 empty).1
        have zero : Nat.ofDigitChars 10 ['0'] 0 = 0 := rfl
        simp [← written, none, zero]
    · rw [written]
  unfold Numeral.magnitude Decimal.magnitude
  dsimp only
  rw [places, power, digits, Option.getD_some, zpow_add₀ (by norm_num), zpow_natCast]
  push_cast
  field_simp

/-- A double is written as its shortest decimal. -/
theorem magnitude_numeral (style : Notation) (x : Double) :
    (style.numeral x).magnitude = (x.shortest style.tie).magnitude := by
  unfold numeral
  dsimp only
  split
  · exact magnitude_plain _ _
  · exact magnitude_scientific _ _ _

/-- A numeral with a fraction and without a power of ten is positional. -/
theorem isPositional_plain (negative : Bool) (d : Decimal) (mark : Char) (plus : Bool) :
    Text.IsPositional ((plain negative d).unsigned.characters mark plus) := by
  have point : (plain negative d).fraction ≠ [] := by
    unfold plain
    split
    · exact List.cons_ne_nil _ _
    · exact List.append_ne_nil_of_right_ne_nil _ Nat.toDigits_ne_nil
  have none : (plain negative d).exponent = none := by
    unfold plain
    split <;> rfl
  have digits : Text.IsDigits (plain negative d).fraction :=
    ⟨point, fun _ => isDigit_of_mem_fraction_plain⟩
  have positional := Text.IsPositional.mk (Text.isDigits_toDigits (plain negative d).whole) digits
  simpa [Numeral.characters, Numeral.unsigned, point, none] using positional

private theorem isInteger_power (e : Int) :
    Text.IsInteger ((if e < 0 then ['-'] else []) ++ Nat.toDigits 10 e.natAbs) := by
  split
  · exact .negative (Text.isDigits_toDigits _)
  · exact .natural (Text.isDigits_toDigits _)

/-- The first digit of a decimal other than zero is not a zero. -/
theorem isScientific_scientific {d : Decimal} (positive : 0 < d.digits) (negative : Bool)
    (mark : Char) :
    Text.IsScientific mark ((scientific true negative d).unsigned.characters mark false) := by
  obtain ⟨lead, rest, characters, nonzero⟩ := Text.toDigits_eq_cons positive
  have digit : lead.isDigit :=
    Text.isDigit_of_mem_toDigits (characters ▸ List.mem_cons_self)
  have fraction : ∀ c ∈ (scientific true negative d).fraction, c.isDigit :=
    fun _ => isDigit_of_mem_fraction_scientific
  rw [scientific_eq characters] at fraction ⊢
  generalize written : (if rest.isEmpty && true then ['0'] else rest) = behind at fraction ⊢
  have point : behind ≠ [] := by
    split at written
    · exact written ▸ List.cons_ne_nil _ _
    · next more => simpa [← written] using more
  have whole : Nat.toDigits 10 (Nat.ofDigitChars 10 [lead] 0) = [lead] := by
    rw [Nat.ofDigitChars_cons, Nat.ofDigitChars_nil, Nat.mul_zero, Nat.zero_add]
    exact (Text.toDigits_of_isDigit digit).2
  have scientific : Text.IsScientific mark (lead :: '.' :: (behind ++ mark :: _)) :=
    .mk digit nonzero ⟨point, fraction⟩ (isInteger_power d.leadingExponent)
  simpa [Numeral.characters, Numeral.unsigned, Numeral.exponentCharacters, point, whole]
    using scientific

end Notation

end ConfigFacts
