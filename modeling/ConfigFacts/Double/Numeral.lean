import ConfigFacts.Double.Shortest
import ConfigFacts.Text.Digits

/-!
# Numerals

A numeral is a decimal number as it is written: a sign, a whole part, fraction digits and perhaps
a power of ten. Doubles are written as numerals by one of two notations, which differ in where
plain decimals end, in how a lone digit is written before a power of ten, in the mark of the power,
and in the neighbour that an exact tie between two shortest decimals goes to.
-/

namespace ConfigFacts

/-- A decimal number as it is written. -/
structure Numeral where
  /-- Whether a minus sign stands in front. -/
  negative : Bool
  /-- The digits before the point, without leading zeros. -/
  whole : Nat
  /-- The digits after the point; there is no point when there are none. -/
  fraction : List Char
  /-- The power of ten, if one is written. -/
  exponent : Option Int
  deriving DecidableEq, Inhabited

/-- How doubles are written. -/
structure Notation where
  /-- Plain decimals start at this power of ten of the first digit. -/
  plainFrom : Int
  /-- Plain decimals end below this power of ten of the first digit. -/
  plainBelow : Int
  /-- Whether a lone digit before a power of ten is followed by `.0`. -/
  padded : Bool
  /-- The character before the power of ten. -/
  mark : Char
  /-- Whether a power of ten that is not negative carries a plus sign. -/
  plus : Bool
  /-- Where an exact tie between two shortest decimals goes. -/
  tie : Tie

namespace Numeral

/-- The natural number without a point and a power. -/
def ofNat (n : Nat) : Numeral :=
  ⟨false, n, [], none⟩

/-- The natural number of a numeral that has no sign, no point and no power. -/
def natural? (n : Numeral) : Option Nat :=
  if !n.negative && n.fraction.isEmpty && n.exponent.isNone then some n.whole else none

/-- The characters of a power of ten. -/
def exponentCharacters (mark : Char) (plus : Bool) (e : Int) : List Char :=
  mark :: ((if e < 0 then ['-'] else if plus then ['+'] else []) ++ Nat.toDigits 10 e.natAbs)

/-- The characters of a numeral. -/
def characters (mark : Char) (plus : Bool) (n : Numeral) : List Char :=
  (if n.negative then ['-'] else [])
    ++ Nat.toDigits 10 n.whole
    ++ (if n.fraction.isEmpty then [] else '.' :: n.fraction)
    ++ (n.exponent.map (exponentCharacters mark plus)).getD []

end Numeral

namespace Notation

/-- A decimal in plain notation, with at least one digit after the point. -/
def plain (negative : Bool) (d : Decimal) : Numeral :=
  if 0 ≤ d.exponent then
    ⟨negative, d.digits * Nat.pow 10 d.exponent.toNat, ['0'], none⟩
  else
    let places := (-d.exponent).toNat
    let digits := Nat.toDigits 10 (d.digits % Nat.pow 10 places)
    ⟨negative, d.digits / Nat.pow 10 places,
      List.replicate (places - digits.length) '0' ++ digits, none⟩

/-- A decimal with one digit before the point and a power of ten. -/
def scientific (padded : Bool) (negative : Bool) (d : Decimal) : Numeral :=
  let rest := d.characters.tail
  ⟨negative, Nat.ofDigitChars 10 (d.characters.take 1) 0,
    if rest.isEmpty && padded then ['0'] else rest, some d.leadingExponent⟩

/-- The numeral of a finite double. -/
def numeral (style : Notation) (x : Double) : Numeral :=
  let d := x.shortest style.tie
  if x.isZero || (style.plainFrom ≤ d.leadingExponent && d.leadingExponent < style.plainBelow) then
    plain x.negative d
  else
    scientific style.padded x.negative d

/-- The characters of a finite double. -/
def characters (style : Notation) (x : Double) : List Char :=
  (style.numeral x).characters style.mark style.plus

end Notation

end ConfigFacts
