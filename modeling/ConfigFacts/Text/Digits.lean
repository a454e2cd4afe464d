/-!
# Decimal digits

Reading a run of ASCII decimal digits as a natural number.
-/

namespace ConfigFacts.Text

/-- The number that a nonempty run of decimal digits denotes; leading zeros are allowed. -/
def natural? (s : List Char) : Option Nat :=
  if s ≠ [] ∧ s.all Char.isDigit then some (Nat.ofDigitChars 10 s 0) else none

/-- The digits that a text starts with, and what follows them. -/
def spanDigits (s : List Char) : List Char × List Char :=
  (s.takeWhile Char.isDigit, s.dropWhile Char.isDigit)

end ConfigFacts.Text
