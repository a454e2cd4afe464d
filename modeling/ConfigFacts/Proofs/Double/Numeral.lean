import ConfigFacts.Double.Numeral

/-!
# The characters of numerals

A written numeral has nothing but digits, signs, a point and the mark of its power of ten
(`Numeral.mem_characters`), provided that its fraction is made of digits. That holds of the numeral
of every double (`Notation.isDigit_of_mem_fraction`).
-/

namespace ConfigFacts

theorem Text.isDigit_of_mem_toDigits {n : Nat} {c : Char} (member : c ∈ Nat.toDigits 10 n) :
    c.isDigit :=
  Nat.isDigit_of_mem_toDigits (by decide) (by decide) member

theorem Text.not_mem_toDigits {n : Nat} {c : Char} (other : c.isDigit = false) :
    c ∉ Nat.toDigits 10 n :=
  fun member => Bool.eq_false_iff.1 other (Text.isDigit_of_mem_toDigits member)

namespace Numeral

variable {mark c : Char} {plus : Bool}

private theorem mem_exponentCharacters {e : Int} (member : c ∈ exponentCharacters mark plus e) :
    c.isDigit ∨ c = '-' ∨ c = '+' ∨ c = mark := by
  rcases List.mem_cons.1 member with own | later
  · exact .inr (.inr (.inr own))
  · rcases List.mem_append.1 later with sign | digits
    · split at sign
      · exact .inr (.inl (List.mem_singleton.1 sign))
      · split at sign
        · exact .inr (.inr (.inl (List.mem_singleton.1 sign)))
        · cases sign
    · exact .inl (Text.isDigit_of_mem_toDigits digits)

/-- The characters of a numeral are digits, signs, a point and the mark of a power. -/
theorem mem_characters {n : Numeral} (fraction : ∀ d ∈ n.fraction, d.isDigit)
    (member : c ∈ n.characters mark plus) :
    c.isDigit ∨ c = '-' ∨ c = '+' ∨ c = '.' ∨ c = mark := by
  rcases List.mem_append.1 member with decimal | power
  · rcases List.mem_append.1 decimal with signed | places
    · rcases List.mem_append.1 signed with sign | whole
      · split at sign
        · exact .inr (.inl (List.mem_singleton.1 sign))
        · cases sign
      · exact .inl (Text.isDigit_of_mem_toDigits whole)
    · split at places
      · cases places
      · rcases List.mem_cons.1 places with point | digit
        · exact .inr (.inr (.inr (.inl point)))
        · exact .inl (fraction c digit)
  · cases written : n.exponent with
    | none =>
        rw [written] at power
        cases power
    | some e =>
        rw [written] at power
        rcases mem_exponentCharacters power with digit | minus | sign | own
        · exact .inl digit
        · exact .inr (.inl minus)
        · exact .inr (.inr (.inl sign))
        · exact .inr (.inr (.inr (.inr own)))

end Numeral

namespace Notation

variable {c : Char}

/-- A decimal written plainly has digits behind its point. -/
theorem isDigit_of_mem_fraction_plain {negative : Bool} {d : Decimal}
    (member : c ∈ (plain negative d).fraction) : c.isDigit := by
  unfold plain at member
  split at member
  · obtain rfl := List.mem_singleton.1 member
    rfl
  · rcases List.mem_append.1 member with zero | digit
    · obtain rfl := List.eq_of_mem_replicate zero
      rfl
    · exact Text.isDigit_of_mem_toDigits digit

/-- A decimal written with a power has digits behind its point. -/
theorem isDigit_of_mem_fraction_scientific {padded negative : Bool} {d : Decimal}
    (member : c ∈ (scientific padded negative d).fraction) : c.isDigit := by
  unfold scientific at member
  simp only at member
  split at member
  · obtain rfl := List.mem_singleton.1 member
    rfl
  · exact Text.isDigit_of_mem_toDigits (List.mem_of_mem_tail member)

/-- The fraction of a written double is made of digits. -/
theorem isDigit_of_mem_fraction {style : Notation} {x : Double}
    (member : c ∈ (style.numeral x).fraction) : c.isDigit := by
  unfold numeral at member
  simp only at member
  split at member
  · exact isDigit_of_mem_fraction_plain member
  · exact isDigit_of_mem_fraction_scientific member

end Notation

end ConfigFacts
