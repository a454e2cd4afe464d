import ConfigFacts.Json.Printer
import ConfigFacts.Json.Reader
import ConfigFacts.Proofs.Double.Numeral

/-!
# Numbers are read back

A numeral whose fraction is made of digits is read back in front of anything that may follow a
value (`Json.readNumeral_characters`). Each part of it ends where the next one starts, because no
part starts with a digit but the whole one.
-/

namespace ConfigFacts

namespace Text

private theorem spanDigits_append {digits rest : List Char} (all : ∀ c ∈ digits, c.isDigit)
    (stop : ∀ c ∈ rest.head?, c.isDigit = false) : spanDigits (digits ++ rest) = (digits, rest) := by
  have taken : rest.takeWhile Char.isDigit = [] ∧ rest.dropWhile Char.isDigit = rest := by
    cases rest with
    | nil => exact ⟨rfl, rfl⟩
    | cons c later => simp [stop c rfl]
  unfold spanDigits
  rw [List.takeWhile_append_of_pos all, List.dropWhile_append_of_pos all, taken.1, taken.2,
    List.append_nil]

private theorem exists_digit (n : Nat) : ∃ d ds, Nat.toDigits 10 n = d :: ds ∧ d.isDigit := by
  obtain ⟨d, ds, digits⟩ := List.exists_cons_of_ne_nil (Nat.toDigits_ne_nil (n := n) (b := 10))
  exact ⟨d, ds, digits, isDigit_of_mem_toDigits (digits ▸ List.mem_cons_self)⟩

/-- The digits of a number other than zero do not start with a zero. -/
theorem toDigits_eq_cons {n : Nat} (positive : 0 < n) :
    ∃ d ds, Nat.toDigits 10 n = d :: ds ∧ d ≠ '0' := by
  induction n using Nat.strongRecOn with
  | ind n ih =>
    rw [Nat.toDigits_eq_if (by decide)]
    split
    · exact ⟨_, [], rfl, fun zero => by rw [Nat.digitChar_eq_zero] at zero; omega⟩
    · obtain ⟨d, ds, digits, nonzero⟩ := ih (n / 10) (by omega) (by omega)
      exact ⟨d, ds ++ [Nat.digitChar (n % 10)], by rw [digits, List.cons_append], nonzero⟩

end Text

namespace Json

open Text

/-- What may follow a value: nothing, a comma, the end of its container, or a blank. -/
def Follows (rest : List Char) : Prop :=
  ∀ c ∈ rest.head?, c = ',' ∨ c = ']' ∨ c = '\x7d' ∨ isSpace c

/-- What follows a value does not go on with a number. -/
theorem Follows.stop {rest : List Char} (follows : Follows rest) :
    ∀ c ∈ rest.head?, c.isDigit = false ∧ c ≠ '.' ∧ c ≠ 'e' ∧ c ≠ 'E' := by
  intro c head
  have next := follows c head
  simp only [isSpace, Bool.or_eq_true, decide_eq_true_eq, or_assoc] at next
  rcases next with rfl | rfl | rfl | rfl | rfl | rfl | rfl <;> decide

/-- The digits of a natural number are read as this number. -/
theorem readWhole_toDigits (n : Nat) (rest : List Char)
    (stop : ∀ c ∈ rest.head?, c.isDigit = false) :
    readWhole (Nat.toDigits 10 n ++ rest) = some (n, rest) := by
  have span : spanDigits (Nat.toDigits 10 n ++ rest) = (Nat.toDigits 10 n, rest) :=
    spanDigits_append (fun _ => isDigit_of_mem_toDigits) stop
  have value : Nat.ofDigitChars 10 (Nat.toDigits 10 n) 0 = n := Nat.ofDigitChars_ten_toDigits
  unfold readWhole
  rw [span]
  rcases Nat.eq_zero_or_pos n with rfl | positive
  · rfl
  · obtain ⟨d, ds, digits, nonzero⟩ := toDigits_eq_cons positive
    rw [digits] at value ⊢
    split <;> simp_all

private theorem readFraction_append {fraction rest : List Char} (all : ∀ c ∈ fraction, c.isDigit)
    (stop : ∀ c ∈ rest.head?, c.isDigit = false ∧ c ≠ '.') :
    readFraction ((if fraction.isEmpty then [] else '.' :: fraction) ++ rest) =
      some (fraction, rest) := by
  cases fraction with
  | nil =>
      rw [List.isEmpty_nil, if_pos rfl, List.nil_append]
      unfold readFraction
      split
      · exact absurd rfl (stop _ rfl).2
      · rfl
  | cons d ds =>
      have span := spanDigits_append all fun c head => (stop c head).1
      show readFraction ('.' :: (d :: ds ++ rest)) = _
      unfold readFraction
      simp only [span]

private theorem readPower_toDigits (negative : Bool) (n : Nat) {rest : List Char}
    (stop : ∀ c ∈ rest.head?, c.isDigit = false) :
    readPower negative (Nat.toDigits 10 n ++ rest) =
      some (some (if negative then -(n : Int) else n), rest) := by
  have span : spanDigits (Nat.toDigits 10 n ++ rest) = (Nat.toDigits 10 n, rest) :=
    spanDigits_append (fun _ => isDigit_of_mem_toDigits) stop
  have value : Nat.ofDigitChars 10 (Nat.toDigits 10 n) 0 = n := Nat.ofDigitChars_ten_toDigits
  unfold readPower
  rw [span]
  split
  · next none => exact absurd (congrArg Prod.fst none) Nat.toDigits_ne_nil
  · next found =>
      obtain ⟨rfl, rfl⟩ := Prod.mk.inj found
      rw [value]

/-- Digits without a sign in front are read like those behind a plus sign. -/
theorem readExponent_digits {mark : Char} (letter : mark = 'e' ∨ mark = 'E') (n : Nat)
    (rest : List Char) :
    readExponent (mark :: (Nat.toDigits 10 n ++ rest)) =
      readPower false (Nat.toDigits 10 n ++ rest) := by
  obtain ⟨d, ds, spelled, digit⟩ := exists_digit n
  rw [spelled, List.cons_append]
  have plus : d ≠ '+' := by
    rintro rfl
    cases digit
  have minus : d ≠ '-' := by
    rintro rfl
    cases digit
  simp [readExponent, letter, plus, minus]

private theorem readExponent_append {mark : Char} (letter : mark = 'e' ∨ mark = 'E') (plus : Bool)
    (exponent : Option Int) {rest : List Char}
    (stop : ∀ c ∈ rest.head?, c.isDigit = false ∧ c ≠ 'e' ∧ c ≠ 'E') :
    readExponent ((exponent.map (Numeral.exponentCharacters mark plus)).getD [] ++ rest) =
      some (exponent, rest) := by
  cases exponent with
  | none =>
      cases rest with
      | nil => rfl
      | cons c later => simp [readExponent, stop c rfl]
  | some e =>
      have digits : ∀ c ∈ rest.head?, c.isDigit = false := fun c head => (stop c head).1
      by_cases negative : e < 0
      · have power := readPower_toDigits true e.natAbs digits
        rw [if_pos rfl, show -(e.natAbs : Int) = e by omega] at power
        simp [readExponent, Numeral.exponentCharacters, letter, negative, power]
      · have power := readPower_toDigits false e.natAbs digits
        rw [if_neg Bool.false_ne_true, show (e.natAbs : Int) = e by omega] at power
        cases plus with
        | true => simp [readExponent, Numeral.exponentCharacters, letter, negative, power]
        | false =>
            have unsigned := readExponent_digits letter e.natAbs rest
            simp [Numeral.exponentCharacters, negative, unsigned, power]

/-- A written number is read up to its end, whether the mark of its power is small or not. -/
theorem readNumeral_characters {mark : Char} (letter : mark = 'e' ∨ mark = 'E') (plus : Bool)
    {n : Numeral} (digits : ∀ c ∈ n.fraction, c.isDigit) {rest : List Char}
    (follows : Follows rest) : readNumeral (n.characters mark plus ++ rest) = some (n, rest) := by
  obtain ⟨negative, whole, fraction, exponent⟩ := n
  -- The parts behind the whole one, each of which ends where the next one starts.
  let power := (exponent.map (Numeral.exponentCharacters mark plus)).getD []
  let places := if fraction.isEmpty then [] else '.' :: fraction
  have afterPower : ∀ c ∈ rest.head?, c.isDigit = false ∧ c ≠ 'e' ∧ c ≠ 'E' := by
    intro c head
    obtain ⟨digit, -, letters⟩ := follows.stop c head
    exact ⟨digit, letters⟩
  have afterFraction : ∀ c ∈ (power ++ rest).head?, c.isDigit = false ∧ c ≠ '.' := by
    intro c head
    cases exponent with
    | none =>
        obtain ⟨digit, point, -⟩ := follows.stop c head
        exact ⟨digit, point⟩
    | some e =>
        cases head
        rcases letter with rfl | rfl <;> decide
  have afterWhole : ∀ c ∈ (places ++ (power ++ rest)).head?, c.isDigit = false := by
    intro c head
    cases fraction with
    | nil => exact (afterFraction c head).1
    | cons d ds =>
        cases head
        rfl
  have wholeRead := readWhole_toDigits whole _ afterWhole
  have fractionRead : readFraction (places ++ (power ++ rest)) = some (fraction, power ++ rest) :=
    readFraction_append digits afterFraction
  have exponentRead : readExponent (power ++ rest) = some (exponent, rest) :=
    readExponent_append letter plus exponent afterPower
  have written : Numeral.characters mark plus ⟨negative, whole, fraction, exponent⟩ ++ rest =
      (if negative then ['-'] else []) ++
        (Nat.toDigits 10 whole ++ (places ++ (power ++ rest))) := by
    simp only [Numeral.characters, List.append_assoc, places, power]
  rw [written]
  clear_value places power
  cases negative with
  | true => simp [readNumeral, wholeRead, fractionRead, exponentRead]
  | false =>
      obtain ⟨d, ds, spelled, digit⟩ := exists_digit whole
      have unsigned : d ≠ '-' := by
        rintro rfl
        cases digit
      rw [spelled, List.cons_append] at wholeRead
      simp [readNumeral, spelled, unsigned, wholeRead, fractionRead, exponentRead]

/-- The characters of a numeral are read as this numeral. -/
theorem readNumeral_append {n : Numeral} (digits : ∀ c ∈ n.fraction, c.isDigit) {rest : List Char}
    (follows : Follows rest) : readNumeral (numeralCharacters n ++ rest) = some (n, rest) :=
  readNumeral_characters (.inl rfl) true digits follows

/-- A written number starts with a sign or a digit. -/
theorem exists_numeralCharacters (n : Numeral) :
    ∃ c cs, numeralCharacters n = c :: cs ∧ (c = '-' ∨ c.isDigit) := by
  obtain ⟨negative, whole, fraction, exponent⟩ := n
  obtain ⟨d, ds, spelled, digit⟩ := exists_digit whole
  cases negative with
  | true => exact ⟨_, _, rfl, .inl rfl⟩
  | false =>
      have start : numeralCharacters ⟨false, whole, fraction, exponent⟩ = Nat.toDigits 10 whole ++
          ((if fraction.isEmpty then [] else '.' :: fraction) ++
            (exponent.map (Numeral.exponentCharacters 'e' true)).getD []) := by
        simp only [numeralCharacters, Numeral.characters, Bool.false_eq_true, ↓reduceIte,
          List.nil_append, List.append_assoc]
      rw [spelled, List.cons_append] at start
      exact ⟨d, _, start, .inr digit⟩

end Json

end ConfigFacts
