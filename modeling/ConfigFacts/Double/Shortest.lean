import ConfigFacts.Double.Basic

/-!
# Shortest digits

The reals that round to a double form an interval around it, which contains its ends exactly when
the code of the double is even. The shortest decimal of a double is, among the decimals of that
interval with the fewest digits, the one nearest to the double.

All magnitudes are whole numbers of `10 ^ -1075` here: a unit of `2 ^ -1074` is `2 * 5 ^ 1075` of
them and half a unit is `5 ^ 1075` of them, so the interval and the grids of decimals are compared
as natural numbers. On the finest grid the double itself is a decimal, so the search succeeds.
-/

namespace ConfigFacts

/-- The decimal `digits * 10 ^ exponent`. -/
structure Decimal where
  /-- The digits, read as one number. -/
  digits : Nat
  /-- The power of ten of the last digit. -/
  exponent : Int
  deriving DecidableEq, Inhabited

/-- Which of two equally near neighbours is taken. -/
inductive Tie where
  /-- The larger one. -/
  | up
  /-- The one whose last digit is even. -/
  | even
  deriving DecidableEq

namespace Decimal

/-- The same decimal without trailing zeros; `fuel` bounds their number. -/
def stripZeros : (fuel : Nat) → Decimal → Decimal
  | 0, d => d
  | fuel + 1, d =>
    if d.digits ≠ 0 ∧ d.digits % 10 = 0 then stripZeros fuel ⟨d.digits / 10, d.exponent + 1⟩ else d

/-- The decimal digits as characters, the first one not a zero unless it is the only one. -/
def characters (d : Decimal) : List Char :=
  Nat.toDigits 10 d.digits

/-- The power of ten of the first digit. -/
def leadingExponent (d : Decimal) : Int :=
  d.exponent + d.characters.length - 1

end Decimal

namespace Double

/-- The decimal grid counts from `10 ^ -gridPower`. -/
def gridPower : Nat := unitPower + 1

/-- The magnitude of a code on the grid. -/
def gridValue (code : Nat) : Nat :=
  2 * unitsOfCode code * Nat.pow 5 gridPower

/-- The middle between a code and the next one, on the grid. -/
def gridMiddle (code : Nat) : Nat :=
  (unitsOfCode code + unitsOfCode (code + 1)) * Nat.pow 5 gridPower

/-- A point of the grid rounds to a code when it lies between the middles on its two sides; a
middle belongs to the even one of its two neighbours. -/
def roundsTo (code point : Nat) : Bool :=
  let low := gridMiddle (code - 1)
  let high := gridMiddle code
  if code % 2 = 0 then low ≤ point && point ≤ high else low < point && point < high

/-- The multiple of a step that rounds to a code and is nearest to it, as a number of steps. -/
def nearestMultiple? (tie : Tie) (code step : Nat) : Option Nat :=
  let value := gridValue code
  let below := value / step
  let above := below + 1
  match roundsTo code (below * step), roundsTo code (above * step) with
  | false, false => none
  | true, false => some below
  | false, true => some above
  | true, true =>
    let twice := 2 * (value % step)
    if twice < step then some below
    else if step < twice then some above
    else match tie with
      | .up => some above
      | .even => some (if below % 2 = 0 then below else above)

/-- The shortest decimal that rounds to a finite nonzero magnitude code. -/
def shortestOfCode (tie : Tie) (code : Nat) : Decimal :=
  let value := gridValue code
  let size := (Nat.toDigits 10 value).length
  let found := (List.range size).findSome? fun n =>
    let places := size - 1 - n
    (nearestMultiple? tie code (Nat.pow 10 places)).map fun count =>
      Decimal.stripZeros (n + 2) ⟨count, (places : Int) - gridPower⟩
  found.getD ⟨value, -(gridPower : Int)⟩

/-- The shortest decimal that rounds to the magnitude of a finite double. -/
def shortest (tie : Tie) (x : Double) : Decimal :=
  if x.isZero then ⟨0, 0⟩ else shortestOfCode tie x.code

end Double

end ConfigFacts
