/-!
# Double-precision numbers

An IEEE 754 double is its 64 bits. The lower 63 of them, read as a number, are its *magnitude
code*: codes are ordered as the magnitudes are, the codes below `2047 * 2 ^ 52` are the finite
ones, that code is infinity, and what lies above it is not a number.

Every finite magnitude is a whole number of *units* of `2 ^ -1074`, which makes exact arithmetic
on doubles arithmetic on natural numbers. Rounding a ratio of naturals to the nearest double, an
exact half going to the even code, is `ofRatio`; products and quotients are rounded by it.
-/

namespace ConfigFacts

/-- A double-precision number, kept as its bits. -/
structure Double where
  /-- The sign, exponent and fraction bits. -/
  bits : UInt64
  deriving DecidableEq, Inhabited

namespace Double

/-- The code of infinity, the least one that is not finite. -/
def infinityCode : Nat := 2047 * Nat.pow 2 52

/-- The exponent of the denominator of a unit. -/
def unitPower : Nat := 1074

/-- The bits below the sign, as a number. -/
def code (x : Double) : Nat :=
  x.bits.toNat % Nat.pow 2 63

/-- The sign bit. -/
def negative (x : Double) : Bool :=
  Nat.pow 2 63 ≤ x.bits.toNat

/-- The double with a given sign and magnitude code. -/
def ofCode (negative : Bool) (code : Nat) : Double :=
  ⟨.ofNat (if negative then Nat.pow 2 63 + code else code)⟩

/-- The sign of a double with the magnitude of another one. -/
def withSign (x : Double) (negative : Bool) : Double :=
  ofCode negative x.code

/-- Zero and the finite numbers of either sign. -/
def isFinite (x : Double) : Bool :=
  x.code < infinityCode

/-- Infinity of either sign. -/
def isInfinite (x : Double) : Bool :=
  x.code = infinityCode

/-- A bit pattern that is not a number. -/
def isNaN (x : Double) : Bool :=
  infinityCode < x.code

/-- Zero of either sign. -/
def isZero (x : Double) : Bool :=
  x.code = 0

/-- The binary exponent of the spacing at a magnitude code, counted from the smallest spacing. -/
def spacing (code : Nat) : Nat :=
  code / Nat.pow 2 52 - 1

/-- The significand of a magnitude code: its multiple of the spacing. -/
def significand (code : Nat) : Nat :=
  code - spacing code * Nat.pow 2 52

/-- The magnitude of a code in units. -/
def unitsOfCode (code : Nat) : Nat :=
  significand code * Nat.pow 2 (spacing code)

/-- The magnitude of a finite double in units. -/
def units (x : Double) : Nat :=
  unitsOfCode x.code

/-- The natural number nearest to a ratio, an exact half going to the even neighbour. -/
def roundHalfEven (num den : Nat) : Nat :=
  let floor := num / den
  let twice := 2 * (num % den)
  if twice < den then floor
  else if den < twice then floor + 1
  else floor + floor % 2

/-- The magnitude code nearest to a ratio; infinity when it is too large. -/
def codeOfRatio (num den : Nat) : Nat :=
  let scaled := num * Nat.pow 2 unitPower
  let shift := (scaled / den).log2 - 52
  min infinityCode (shift * Nat.pow 2 52 + roundHalfEven scaled (den * Nat.pow 2 shift))

/-- The double nearest to a ratio of naturals. -/
def ofRatio (num den : Nat) : Double :=
  ofCode false (codeOfRatio num den)

/-- The double nearest to a natural number. -/
def ofNat (n : Nat) : Double :=
  ofRatio n 1

/-- The positive infinity. -/
def infinity : Double :=
  ofCode false infinityCode

/-- A pattern that is not a number. -/
def nan : Double :=
  ofCode false (infinityCode + Nat.pow 2 51)

/-- The rounded product of two finite numbers. -/
def mulFinite (x y : Double) : Double :=
  (ofRatio (x.units * y.units) (Nat.pow 2 (2 * unitPower))).withSign (x.negative != y.negative)

/-- The rounded quotient. A nonzero number over zero is infinite, a number over infinity is zero,
and zero over zero, infinity over infinity and quotients with a NaN are NaN. -/
def div (x y : Double) : Double :=
  let sign := x.negative != y.negative
  if x.isNaN || y.isNaN then nan
  else if x.isInfinite then if y.isInfinite then nan else infinity.withSign sign
  else if y.isInfinite then ofCode sign 0
  else if y.isZero then if x.isZero then nan else infinity.withSign sign
  else (ofRatio x.units y.units).withSign sign

/-- The whole part, kept between zero and a limit; zero for a NaN. -/
def toNatClamped (limit : Nat) (x : Double) : Nat :=
  if x.isNaN || x.negative then 0
  else if x.isInfinite then limit
  else min limit (x.units / Nat.pow 2 unitPower)

end Double

end ConfigFacts
