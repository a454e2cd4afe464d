import ConfigFacts.Proofs.Double.Nearest

/-!
# The shortest decimal rounds to its double

The search for a shortest decimal tries the two neighbours of the double on grids of powers of ten
(`Double.Neighbours`) and stops at one that rounds to the double, so its decimal does too
(`Double.exists_point_shortestOfCode`). Neighbours are on the same side of a power of ten as
the double, so the first digit of the decimal tells the order of magnitude of the double
(`Double.IsEdge.le_leadingExponent_iff`).
-/

namespace ConfigFacts

namespace Decimal

/-- The number of a decimal. -/
def magnitude (d : Decimal) : ℚ :=
  d.digits * 10 ^ d.exponent

@[simp] theorem magnitude_stripZeros (fuel : Nat) (d : Decimal) :
    (d.stripZeros fuel).magnitude = d.magnitude := by
  induction fuel generalizing d with
  | zero => rfl
  | succ fuel ih =>
      unfold stripZeros
      split
      · next trailing =>
          rw [ih]
          obtain ⟨front, whole⟩ := Nat.dvd_of_mod_eq_zero trailing.2
          unfold magnitude
          rw [whole, Nat.mul_div_cancel_left front (by decide), zpow_add_one₀ (by norm_num)]
          push_cast
          ring
      · rfl

private theorem digits_bounds {d : Decimal} (positive : 0 < d.digits) :
    10 ^ (d.characters.length - 1) ≤ d.digits ∧ d.digits < 10 ^ d.characters.length := by
  have length : 0 < d.characters.length := List.length_pos_iff.2 Nat.toDigits_ne_nil
  refine ⟨Nat.le_of_not_lt fun short => ?_, ?_⟩
  · rcases Nat.eq_zero_or_pos (d.characters.length - 1) with single | more
    · rw [single] at short
      omega
    · have fewer := (Nat.length_toDigits_le_iff (by decide) more).2 short
      change d.characters.length ≤ d.characters.length - 1 at fewer
      omega
  · exact (Nat.length_toDigits_le_iff (by decide) length).1 (Nat.le_refl _)

/-- The first digit of a decimal stands at the largest power of ten that is not larger than it. -/
theorem zpow_le_magnitude_iff {d : Decimal} (positive : 0 < d.digits) (e : Int) :
    (10 : ℚ) ^ e ≤ d.magnitude ↔ e ≤ d.leadingExponent := by
  have length : 0 < d.characters.length := List.length_pos_iff.2 Nat.toDigits_ne_nil
  obtain ⟨low, high⟩ := digits_bounds positive
  have power : (0 : ℚ) < 10 ^ d.exponent := zpow_pos (by norm_num) _
  have below : (10 : ℚ) ^ d.leadingExponent ≤ d.magnitude := by
    have split : d.leadingExponent = (d.characters.length - 1 : Nat) + d.exponent := by
      unfold leadingExponent
      omega
    rw [split, zpow_add₀ (by norm_num), zpow_natCast]
    exact mul_le_mul_of_nonneg_right (by exact_mod_cast low) power.le
  have above : d.magnitude < (10 : ℚ) ^ (d.leadingExponent + 1) := by
    have split : d.leadingExponent + 1 = d.characters.length + d.exponent := by
      unfold leadingExponent
      omega
    rw [split, zpow_add₀ (by norm_num), zpow_natCast]
    exact mul_lt_mul_of_pos_right (by exact_mod_cast high) power
  constructor
  · intro reached
    have less := (zpow_lt_zpow_iff_right₀ (by norm_num)).1 (reached.trans_lt above)
    exact Int.le_of_lt_add_one less
  · intro early
    exact ((zpow_le_zpow_iff_right₀ (by norm_num)).2 early).trans below

end Decimal

namespace Double

/-- A point is one of the two neighbours of a value among the multiples of a power of ten that is
not larger than the value. -/
def Neighbours (value point : Nat) : Prop :=
  ∃ places, 10 ^ places ≤ value ∧
    (point = value / 10 ^ places * 10 ^ places ∨ point = (value / 10 ^ places + 1) * 10 ^ places)

private theorem neighbours_self {value : Nat} (positive : 0 < value) : Neighbours value value :=
  ⟨0, positive, .inl (by simp)⟩

/-- A power of ten that is not larger than a value is not larger than its neighbours. -/
theorem Neighbours.pow_le {value point k : Nat} (near : Neighbours value point)
    (large : 10 ^ k ≤ value) : 10 ^ k ≤ point := by
  obtain ⟨places, fits, found⟩ := near
  have power : 0 < 10 ^ places := Nat.pow_pos (by decide)
  have first : 10 ^ k ≤ value / 10 ^ places * 10 ^ places := by
    rcases Nat.le_total places k with coarse | fine
    · have whole : 10 ^ k = 10 ^ (k - places) * 10 ^ places := by
        rw [← Nat.pow_add, Nat.sub_add_cancel coarse]
      rw [whole] at large ⊢
      exact Nat.mul_le_mul_right _ ((Nat.le_div_iff_mul_le power).2 large)
    · have reached : 1 ≤ value / 10 ^ places := (Nat.one_le_div_iff power).2 fits
      calc 10 ^ k ≤ 10 ^ places := Nat.pow_le_pow_right (by decide) fine
        _ ≤ value / 10 ^ places * 10 ^ places := Nat.le_mul_of_pos_left _ reached
  rcases found with rfl | rfl
  · exact first
  · exact first.trans (Nat.mul_le_mul_right _ (Nat.le_succ _))

/-- A power of ten that is larger than a value is not smaller than its neighbours. -/
theorem Neighbours.le_pow {value point k : Nat} (near : Neighbours value point)
    (small : value < 10 ^ k) : point ≤ 10 ^ k := by
  obtain ⟨places, fits, found⟩ := near
  have coarse : places < k := (Nat.pow_lt_pow_iff_right (by decide)).1 (fits.trans_lt small)
  have whole : 10 ^ k = 10 ^ (k - places) * 10 ^ places := by
    rw [← Nat.pow_add, Nat.sub_add_cancel coarse.le]
  have below : value / 10 ^ places < 10 ^ (k - places) := by
    rw [whole] at small
    exact (Nat.div_lt_iff_lt_mul (Nat.pow_pos (by decide))).2 small
  rw [whole]
  rcases found with rfl | rfl
  · exact Nat.mul_le_mul_right _ below.le
  · exact Nat.mul_le_mul_right _ below

/-- A multiple that is found rounds to the code, and is next to its magnitude. -/
theorem nearestMultiple?_eq_some {tie : Tie} {code step count : Nat}
    (found : nearestMultiple? tie code step = some count) :
    roundsTo code (count * step) ∧
      (count = gridValue code / step ∨ count = gridValue code / step + 1) := by
  unfold nearestMultiple? at found
  dsimp only at found
  cases below : roundsTo code (gridValue code / step * step) <;>
    cases above : roundsTo code ((gridValue code / step + 1) * step) <;>
    rw [below, above] at found
  · cases found
  · cases found
    exact ⟨above, .inr rfl⟩
  · cases found
    exact ⟨below, .inl rfl⟩
  · have either : count = gridValue code / step ∨ count = gridValue code / step + 1 := by
      simp only at found
      split at found
      · exact .inl (Option.some.inj found).symm
      · split at found
        · exact .inr (Option.some.inj found).symm
        · cases tie with
          | up => exact .inr (Option.some.inj found).symm
          | even =>
              simp only [Option.some.injEq] at found
              split at found
              · exact .inl found.symm
              · exact .inr found.symm
    rcases either with rfl | rfl
    · exact ⟨below, .inl rfl⟩
    · exact ⟨above, .inr rfl⟩

/-- A decimal with the power of ten of a place is the point of the grid with so many steps. -/
theorem magnitude_eq_onGrid (count places : Nat) :
    Decimal.magnitude ⟨count, (places : Int) - gridPower⟩ = onGrid (count * 10 ^ places) := by
  unfold Decimal.magnitude onGrid
  rw [zpow_sub₀ (by norm_num), zpow_natCast, zpow_natCast]
  push_cast
  ring

private theorem gridValue_pos {code : Nat} (nonzero : 0 < code) : 0 < gridValue code := by
  have larger := magnitudeOfCode_strictMono nonzero
  rw [← onGrid_gridValue, ← onGrid_gridValue, onGrid_lt_iff] at larger
  exact Nat.zero_lt_of_lt larger

/-- The shortest decimal of a code is a neighbour of its value that rounds to it. -/
theorem exists_point_shortestOfCode (tie : Tie) {code : Nat} (nonzero : 0 < code) :
    ∃ point, roundsTo code point ∧ Neighbours (gridValue code) point ∧
      (shortestOfCode tie code).magnitude = onGrid point := by
  have positive := gridValue_pos nonzero
  have digits : 10 ^ ((Nat.toDigits 10 (gridValue code)).length - 1) ≤ gridValue code :=
    (Decimal.digits_bounds (d := ⟨gridValue code, 0⟩) positive).1
  unfold shortestOfCode
  dsimp only
  generalize (Nat.toDigits 10 (gridValue code)).length = size at digits ⊢
  cases search : (List.range size).findSome? _ with
  | some d =>
      obtain ⟨n, -, found⟩ := List.exists_of_findSome?_eq_some search
      obtain ⟨count, multiple, rfl⟩ := Option.map_eq_some_iff.1 found
      obtain ⟨rounds, near⟩ := nearestMultiple?_eq_some multiple
      rw [Nat.pow_eq] at rounds near
      refine ⟨count * 10 ^ (size - 1 - n), rounds, ⟨size - 1 - n, ?_, ?_⟩, ?_⟩
      · exact (Nat.pow_le_pow_right (by decide) (Nat.sub_le _ _)).trans digits
      · rcases near with rfl | rfl
        · exact .inl rfl
        · exact .inr rfl
      · rw [Option.getD_some, Decimal.magnitude_stripZeros, magnitude_eq_onGrid]
  | none =>
      refine ⟨gridValue code, roundsTo_gridValue nonzero, neighbours_self positive, ?_⟩
      have exact := magnitude_eq_onGrid (gridValue code) 0
      rwa [Nat.cast_zero, Int.zero_sub, Nat.pow_zero, Nat.mul_one] at exact

/-- The shortest decimal of a nonzero code is not zero. -/
theorem shortestOfCode_digits_pos (tie : Tie) {code : Nat} (nonzero : 0 < code) :
    0 < (shortestOfCode tie code).digits := by
  obtain ⟨point, -, near, shortest⟩ := exists_point_shortestOfCode tie nonzero
  have positive : 0 < point := near.pow_le (show 10 ^ 0 ≤ _ from gridValue_pos nonzero)
  refine Nat.pos_of_ne_zero fun none => ?_
  have zero : onGrid point ≤ onGrid 0 := by
    rw [← shortest, Decimal.magnitude, none, Nat.cast_zero, zero_mul, onGrid, Nat.cast_zero,
      zero_div]
  exact absurd (onGrid_le_iff.1 zero) (Nat.not_le_of_lt positive)

/-- A power of ten that rounds to a code from below. -/
structure IsEdge (power code : Nat) : Prop where
  nonzero : 0 < code
  rounds : roundsTo code (10 ^ power)
  below : 10 ^ power ≤ gridValue code

/-- A value reaches such a power of ten exactly if its code reaches the code of the power. -/
theorem IsEdge.pow_le_iff {power edge code : Nat} (isEdge : IsEdge power edge) :
    10 ^ power ≤ gridValue code ↔ edge ≤ code := by
  have nearest := isNearest_of_roundsTo isEdge.nonzero isEdge.rounds
  have below := onGrid_le_iff.2 isEdge.below
  rw [onGrid_gridValue] at below
  rw [← onGrid_le_iff, onGrid_gridValue]
  constructor
  · intro reached
    by_contra! less
    -- A smaller code that is not below the power would be nearer to it.
    have closer := (abs_sub_le_iff_middle_le (magnitudeOfCode_strictMono less)).1
      (nearest.least code)
    have := magnitudeOfCode_strictMono less
    linarith
  · intro more
    exact below.trans (magnitudeOfCode_strictMono.monotone more)

private theorem onGrid_pow (power : Nat) :
    onGrid (10 ^ power) = 10 ^ ((power : Int) - gridPower) := by
  have one := magnitude_eq_onGrid 1 power
  rwa [Decimal.magnitude, Nat.cast_one, one_mul, Nat.one_mul, eq_comm] at one

/-- A power of ten is compared with a magnitude on the grid. -/
theorem pow_le_gridValue_iff {power code : Nat} :
    10 ^ power ≤ gridValue code ↔
      (10 : ℚ) ^ ((power : Int) - gridPower) ≤ magnitudeOfCode code := by
  rw [← onGrid_le_iff, onGrid_pow, onGrid_gridValue]

/-- The shortest decimal of a code is on the same side of such a power of ten as the code. -/
theorem IsEdge.le_leadingExponent_iff {power edge code : Nat} (isEdge : IsEdge power edge)
    (tie : Tie) (nonzero : 0 < code) :
    (power : Int) - gridPower ≤ (shortestOfCode tie code).leadingExponent ↔
      10 ^ power ≤ gridValue code := by
  obtain ⟨point, rounds, near, shortest⟩ := exists_point_shortestOfCode tie nonzero
  rw [← Decimal.zpow_le_magnitude_iff (shortestOfCode_digits_pos tie nonzero), ← onGrid_pow,
    shortest, onGrid_le_iff]
  refine ⟨fun reached => ?_, near.pow_le⟩
  by_contra! small
  -- The decimal would be the power itself, which rounds to another code.
  obtain rfl := Nat.le_antisymm (near.le_pow small) reached
  obtain rfl := (isNearest_of_roundsTo nonzero rounds).unique
    (isNearest_of_roundsTo isEdge.nonzero isEdge.rounds)
  exact absurd isEdge.below (Nat.not_le_of_lt small)

end Double

end ConfigFacts
