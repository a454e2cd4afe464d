import ConfigFacts.Double.Numeral

/-!
# Reading numerals as doubles

The digits of a numeral are gathered into a significand as long as it stays below `2 ^ 64`. The
rest of the whole part only counts towards the power of ten, the rest of the fraction is ignored.
The significand is rounded to a double and then scaled by the power of ten in double arithmetic,
by one product or quotient when the power is at most 308. So the result can be off by one in the
last bit; a result that would be infinite is refused.
-/

namespace ConfigFacts

namespace Numeral

/-- Appends digits to a significand while it stays below `2 ^ 64`; gives the digits left over. -/
def gather (significand : Nat) : List Char → Nat × List Char
  | [] => (significand, [])
  | c :: rest =>
    let next := Nat.ofDigitChars 10 [c] significand
    if next < UInt64.size then gather next rest else (significand, c :: rest)

/-- The significand of a numeral and the power of ten that goes with it. -/
def parts (n : Numeral) : Nat × Int :=
  let (head, dropped) := gather 0 (Nat.toDigits 10 n.whole)
  let (significand, ignored) := gather head n.fraction
  (significand, dropped.length - (n.fraction.length - ignored.length : Nat) + n.exponent.getD 0)

end Numeral

namespace Double

/-- The largest power of ten that is scaled by at once. -/
def maxPower : Nat := 308

/-- A double over a power of ten, in steps of the largest power. -/
def scaleDown (x : Double) (places : Nat) : Double :=
  if places ≤ maxPower then x.div (ofNat (Nat.pow 10 places))
  else if x.isZero then x
  else scaleDown (x.div (ofNat (Nat.pow 10 maxPower))) (places - maxPower)
termination_by places
decreasing_by simp only [maxPower] at *; omega

/-- A finite double times a power of ten, unless it is infinite. -/
def scaleUp? (x : Double) (places : Nat) : Option Double :=
  if places ≤ maxPower then
    let product := x.mulFinite (ofNat (Nat.pow 10 places))
    if product.isFinite then some product else none
  else if x.isZero then some x else none

/-- The double that a numeral is read as. -/
def ofNumeral? (n : Numeral) : Option Double :=
  let (significand, power) := n.parts
  let x := ofNat significand
  (if 0 ≤ power then x.scaleUp? power.toNat else some (x.scaleDown (-power).toNat)).map
    (·.withSign n.negative)

end Double

end ConfigFacts
