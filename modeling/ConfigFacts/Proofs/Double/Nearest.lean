import ConfigFacts.Double.Shortest
import ConfigFacts.Proofs.Double.Exact
import Mathlib.Algebra.Order.Field.Basic
import Mathlib.Algebra.Order.Field.Rat
import Mathlib.Order.Monotone.Basic
import Mathlib.Tactic.FieldSimp
import Mathlib.Tactic.Linarith
import Mathlib.Tactic.Positivity
import Mathlib.Tactic.Ring

/-!
# Rounding to the nearest double

A rational number rounds to the code whose magnitude is nearest, and to the even one of two codes
that are equally near (`Double.IsNearest`). The exponents of codes go on above infinity, so that a
number rounds to a finite code exactly if it does not overflow. It rounds to at most one code
(`Double.IsNearest.unique`), which is the one whose middles it lies between
(`Double.isNearest_of_roundsTo`).
-/

namespace ConfigFacts

namespace Double

/-- The magnitude of a code. -/
def magnitudeOfCode (code : Nat) : ℚ :=
  unitsOfCode code / 2 ^ unitPower

/-- The magnitude of a finite double. -/
def magnitude (x : Double) : ℚ :=
  magnitudeOfCode x.code

/-- No magnitude is nearer to a number than that of a code, and none is as near if the code is
odd. -/
structure IsNearest (q : ℚ) (code : Nat) : Prop where
  least (other : Nat) : |q - magnitudeOfCode code| ≤ |q - magnitudeOfCode other|
  even {other : Nat} (apart : other ≠ code)
    (tie : |q - magnitudeOfCode other| = |q - magnitudeOfCode code|) : code % 2 = 0

/-- Larger codes have larger magnitudes. -/
theorem magnitudeOfCode_strictMono : StrictMono magnitudeOfCode := by
  refine strictMono_nat_of_lt_succ fun code => ?_
  have spaced : unitsOfCode code < unitsOfCode (code + 1) := by
    rw [unitsOfCode_succ]
    exact Nat.lt_add_of_pos_right (Nat.two_pow_pos _)
  exact div_lt_div_of_pos_right (Nat.cast_lt.2 spaced) (by positivity)

section Middle

variable {q a b : ℚ}

/-- Of two numbers the smaller one is no further away up to the middle between them. -/
theorem abs_sub_le_iff_le_middle (less : a < b) : |q - a| ≤ |q - b| ↔ 2 * q ≤ a + b := by
  have factored : (q - b) ^ 2 - (q - a) ^ 2 = (b - a) * (a + b - 2 * q) := by ring
  rw [← sq_le_sq, ← sub_nonneg, factored, mul_nonneg_iff_of_pos_left (sub_pos.2 less), sub_nonneg]

/-- Of two points, the upper one is nearer exactly from the middle on. -/
theorem abs_sub_le_iff_middle_le (less : a < b) : |q - b| ≤ |q - a| ↔ a + b ≤ 2 * q := by
  have factored : (q - a) ^ 2 - (q - b) ^ 2 = (b - a) * (2 * q - (a + b)) := by ring
  rw [← sq_le_sq, ← sub_nonneg, factored, mul_nonneg_iff_of_pos_left (sub_pos.2 less), sub_nonneg]

end Middle

variable {q : ℚ} {code : Nat}

private theorem IsNearest.not_lt {code' : Nat} (nearest : IsNearest q code)
    (nearest' : IsNearest q code') : ¬ code < code' := by
  intro less
  have below := (abs_sub_le_iff_le_middle (magnitudeOfCode_strictMono less)).1 (nearest.least code')
  have above := (abs_sub_le_iff_middle_le (magnitudeOfCode_strictMono less)).1 (nearest'.least code)
  have tie := le_antisymm (nearest.least code') (nearest'.least code)
  have even := nearest.even less.ne' tie.symm
  have even' := nearest'.even less.ne tie
  -- A number in the middle of two even codes would be nearer to the odd ones between them.
  have between : code + 1 < code' := by omega
  have next := (abs_sub_le_iff_le_middle (magnitudeOfCode_strictMono (Nat.lt_succ_self code))).1
    (nearest.least (code + 1))
  have := magnitudeOfCode_strictMono between
  linarith

/-- A number rounds to at most one code. -/
theorem IsNearest.unique {code' : Nat} (nearest : IsNearest q code)
    (nearest' : IsNearest q code') : code = code' :=
  Nat.le_antisymm (Nat.le_of_not_lt (nearest'.not_lt nearest))
    (Nat.le_of_not_lt (nearest.not_lt nearest'))

/-- The magnitude of a code rounds to it. -/
theorem isNearest_magnitudeOfCode (code : Nat) : IsNearest (magnitudeOfCode code) code where
  least other := by
    rw [sub_self, abs_zero]
    exact abs_nonneg _
  even apart tie := by
    rw [sub_self, abs_zero, abs_eq_zero, sub_eq_zero] at tie
    exact absurd (magnitudeOfCode_strictMono.injective tie).symm apart

/-- A number between the middles on the two sides of a code rounds to this code, if it is no middle
or the code is even. -/
theorem isNearest_of_between {before : Nat}
    (low : magnitudeOfCode before + magnitudeOfCode (before + 1) ≤ 2 * q)
    (high : 2 * q ≤ magnitudeOfCode (before + 1) + magnitudeOfCode (before + 2))
    (inside : (before + 1) % 2 ≠ 0 →
      magnitudeOfCode before + magnitudeOfCode (before + 1) < 2 * q ∧
        2 * q < magnitudeOfCode (before + 1) + magnitudeOfCode (before + 2)) :
    IsNearest q (before + 1) := by
  have smaller {other : Nat} (less : other < before + 1) :
      magnitudeOfCode other ≤ magnitudeOfCode before :=
    magnitudeOfCode_strictMono.monotone (Nat.le_of_lt_succ less)
  have larger {other : Nat} (more : before + 1 < other) :
      magnitudeOfCode (before + 2) ≤ magnitudeOfCode other :=
    magnitudeOfCode_strictMono.monotone more
  refine ⟨fun other => ?_, fun {other} apart tie => ?_⟩
  · rcases Nat.lt_trichotomy other (before + 1) with less | rfl | more
    · have := smaller less
      exact (abs_sub_le_iff_middle_le (magnitudeOfCode_strictMono less)).2 (by linarith)
    · exact le_rfl
    · have := larger more
      exact (abs_sub_le_iff_le_middle (magnitudeOfCode_strictMono more)).2 (by linarith)
  · by_contra odd
    obtain ⟨above, below⟩ := inside odd
    rcases Nat.lt_or_gt_of_ne apart with less | more
    · have := smaller less
      have := (abs_sub_le_iff_le_middle (magnitudeOfCode_strictMono less)).1 tie.le
      linarith
    · have := larger more
      have := (abs_sub_le_iff_middle_le (magnitudeOfCode_strictMono more)).1 tie.le
      linarith

section Grid

/-- The number at a point of the grid. -/
def onGrid (point : Nat) : ℚ :=
  point / 10 ^ gridPower

/-- Points of the grid are ordered as their numbers. -/
theorem onGrid_le_iff {point point' : Nat} : onGrid point ≤ onGrid point' ↔ point ≤ point' := by
  unfold onGrid
  rw [div_le_div_iff_of_pos_right (by positivity), Nat.cast_le]

/-- Points of the grid are ordered strictly as their numbers. -/
theorem onGrid_lt_iff {point point' : Nat} : onGrid point < onGrid point' ↔ point < point' := by
  rw [← not_le, onGrid_le_iff, Nat.not_le]

private theorem ten_pow_gridPower : (10 : ℚ) ^ gridPower = 2 * 2 ^ unitPower * 5 ^ gridPower := by
  have two : (2 : ℚ) ^ gridPower = 2 * 2 ^ unitPower := pow_succ' 2 unitPower
  rw [← two, ← mul_pow]
  norm_num

/-- The point of a code is its magnitude. -/
theorem onGrid_gridValue (code : Nat) : onGrid (gridValue code) = magnitudeOfCode code := by
  unfold onGrid gridValue magnitudeOfCode
  rw [ten_pow_gridPower, Nat.pow_eq]
  push_cast
  field_simp

private theorem two_mul_onGrid_gridMiddle (code : Nat) :
    2 * onGrid (gridMiddle code) = magnitudeOfCode code + magnitudeOfCode (code + 1) := by
  unfold onGrid gridMiddle magnitudeOfCode
  rw [ten_pow_gridPower, Nat.pow_eq]
  push_cast
  field_simp

/-- What `roundsTo` asks of a point: it lies between two middles, and it is one of them only if the
code is even. -/
theorem roundsTo_iff {before point : Nat} :
    roundsTo (before + 1) point ↔ (gridMiddle before ≤ point ∧ point ≤ gridMiddle (before + 1)) ∧
      ((before + 1) % 2 ≠ 0 → gridMiddle before < point ∧ point < gridMiddle (before + 1)) := by
  unfold roundsTo
  rw [Nat.add_sub_cancel]
  by_cases even : (before + 1) % 2 = 0
  · simp [even]
  · simp only [even, ↓reduceIte, Bool.and_eq_true, decide_eq_true_eq, ne_eq, not_false_eq_true,
      true_implies]
    exact ⟨fun inside => ⟨⟨inside.1.le, inside.2.le⟩, inside⟩, And.right⟩

/-- A point between the middles of a code rounds to this code. -/
theorem isNearest_of_roundsTo {code point : Nat} (nonzero : 0 < code)
    (rounds : roundsTo code point) : IsNearest (onGrid point) code := by
  obtain ⟨before, rfl⟩ := Nat.exists_eq_succ_of_ne_zero (Nat.ne_of_gt nonzero)
  obtain ⟨⟨low, high⟩, inside⟩ := roundsTo_iff.1 rounds
  have below := two_mul_onGrid_gridMiddle before
  have above := two_mul_onGrid_gridMiddle (before + 1)
  refine isNearest_of_between ?_ ?_ fun odd => ?_
  · have := onGrid_le_iff.2 low
    linarith
  · have := onGrid_le_iff.2 high
    linarith
  · have := onGrid_lt_iff.2 (inside odd).1
    have := onGrid_lt_iff.2 (inside odd).2
    constructor <;> linarith

/-- A nonzero magnitude rounds to its own code. -/
theorem roundsTo_gridValue {code : Nat} (nonzero : 0 < code) : roundsTo code (gridValue code) := by
  obtain ⟨before, rfl⟩ := Nat.exists_eq_succ_of_ne_zero (Nat.ne_of_gt nonzero)
  have previous := magnitudeOfCode_strictMono (Nat.lt_succ_self before)
  have next := magnitudeOfCode_strictMono (Nat.lt_succ_self (before + 1))
  have below := two_mul_onGrid_gridMiddle before
  have above := two_mul_onGrid_gridMiddle (before + 1)
  have value := onGrid_gridValue (before + 1)
  have inside : gridMiddle before < gridValue (before + 1) ∧
      gridValue (before + 1) < gridMiddle (before + 1) := by
    rw [← onGrid_lt_iff, ← onGrid_lt_iff]
    constructor <;> linarith
  exact roundsTo_iff.2 ⟨⟨inside.1.le, inside.2.le⟩, fun _ => inside⟩

end Grid

end Double

end ConfigFacts
