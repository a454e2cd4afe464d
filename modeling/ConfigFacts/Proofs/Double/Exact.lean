import ConfigFacts.Proofs.Double.Finite

/-!
# Natural numbers are written exactly and read back

A natural number below `2 ^ 53` is a double (`Double.units_ofNat`). The reals that round to it are
less than a half away, so the only other natural numbers it could be written as are none: its
shortest decimal is the number itself (`Double.shortest_ofNat`). It is read back if the digit behind
the point leaves it below `2 ^ 53` (`Double.ofNumeral?_tenths`).
-/

namespace ConfigFacts

namespace Double

section Spacing

variable {code : Nat}

private theorem spacing_eq (code : Nat) : spacing code = code / 2 ^ 52 - 1 := rfl

/-- The significand of a code is what its spacing leaves of it. -/
theorem significand_eq (code : Nat) : significand code = code - spacing code * 2 ^ 52 := rfl

theorem unitsOfCode_eq (code : Nat) :
    unitsOfCode code = significand code * 2 ^ spacing code := rfl

private theorem spacing_mono {code' : Nat} (below : code ≤ code') :
    spacing code ≤ spacing code' := by
  rw [spacing_eq, spacing_eq]
  omega

/-- The next code is one spacing further. -/
theorem unitsOfCode_succ (code : Nat) :
    unitsOfCode (code + 1) = unitsOfCode code + 2 ^ spacing code := by
  have here := spacing_eq code
  have there := spacing_eq (code + 1)
  have digits := significand_eq code
  have digits' := significand_eq (code + 1)
  rw [unitsOfCode_eq, unitsOfCode_eq]
  rcases Nat.eq_or_lt_of_le (spacing_mono (show code ≤ code + 1 by omega)) with same | wider
  · rw [← same, show significand (code + 1) = significand code + 1 by omega, Nat.succ_mul]
  · have spaced : spacing (code + 1) = spacing code + 1 := by omega
    have full : significand code = 2 ^ 53 - 1 := by omega
    have first : significand (code + 1) = 2 ^ 52 := by omega
    rw [spaced, full, first, Nat.pow_succ]
    omega

/-- A code with a full significand. -/
theorem unitsOfCode_normal {s q : Nat} (low : 2 ^ 52 ≤ q) (high : q < 2 ^ 53) :
    spacing (s * 2 ^ 52 + q) = s ∧ unitsOfCode (s * 2 ^ 52 + q) = q * 2 ^ s := by
  have spaced : spacing (s * 2 ^ 52 + q) = s := by
    rw [spacing_eq]
    omega
  rw [unitsOfCode_eq, significand_eq, spaced, Nat.add_sub_cancel_left]
  exact ⟨rfl, rfl⟩

end Spacing

section Rounding

variable {n den : Nat}

private theorem roundHalfEven_mul (n : Nat) (positive : 0 < den) :
    roundHalfEven (n * den) den = n :=
  Nat.le_antisymm (roundHalfEven_le (Nat.le_refl _)) (le_roundHalfEven positive (Nat.le_refl _))

/-- The exponent of one in units, as a variable that no step evaluates a power of. -/
theorem exists_oneUnits : ∃ one : Nat, oneUnits = 2 ^ one ∧ one = 1074 :=
  ⟨1074, by decide +kernel, rfl⟩

/-- The code of a natural number with at most 53 binary digits. -/
def codeOfNat (n : Nat) : Nat :=
  (n.log2 + 1022) * 2 ^ 52 + n * 2 ^ (52 - n.log2)

private theorem log2_le (small : n < 2 ^ 53) : n.log2 ≤ 52 := by
  rcases Nat.eq_zero_or_pos n with rfl | positive
  · decide
  · exact Nat.le_of_lt_succ ((Nat.log2_lt (Nat.ne_of_gt positive)).2 small)

private theorem full_significand (nonzero : 0 < n) (small : n < 2 ^ 53) :
    2 ^ 52 ≤ n * 2 ^ (52 - n.log2) ∧ n * 2 ^ (52 - n.log2) < 2 ^ 53 := by
  have digits := log2_le small
  have low := Nat.log2_self_le (Nat.ne_of_gt nonzero)
  have high : n < 2 ^ (n.log2 + 1) := Nat.lt_log2_self
  have bottom : 2 ^ 52 = 2 ^ n.log2 * 2 ^ (52 - n.log2) := by
    rw [← Nat.pow_add, Nat.add_sub_cancel' digits]
  have top : 2 ^ 53 = 2 ^ (n.log2 + 1) * 2 ^ (52 - n.log2) := by
    rw [← Nat.pow_add]
    congr 1
    omega
  rw [bottom, top]
  exact ⟨Nat.mul_le_mul_right _ low, Nat.mul_lt_mul_of_pos_right high (Nat.two_pow_pos _)⟩

private theorem log2_mul_two_pow (nonzero : 0 < n) (k : Nat) : (n * 2 ^ k).log2 = n.log2 + k := by
  have power := Nat.two_pow_pos k
  refine (Nat.log2_eq_iff (Nat.ne_of_gt (Nat.mul_pos nonzero power))).2 ⟨?_, ?_⟩
  · rw [Nat.pow_add]
    exact Nat.mul_le_mul_right _ (Nat.log2_self_le (Nat.ne_of_gt nonzero))
  · rw [Nat.add_right_comm, Nat.pow_add]
    exact Nat.mul_lt_mul_of_pos_right Nat.lt_log2_self power

/-- A ratio that is a natural number of at most 53 binary digits is not rounded. -/
theorem codeOfRatio_mul (nonzero : 0 < n) (small : n < 2 ^ 53) (positive : 0 < den) :
    codeOfRatio (n * den) den = codeOfNat n := by
  have digits := log2_le small
  obtain ⟨_, full⟩ := full_significand nonzero small
  obtain ⟨one, power, exponent⟩ := exists_oneUnits
  have parts : one = (52 - n.log2) + (n.log2 + 1022) := by
    rw [exponent]
    omega
  have shift : (n * den * oneUnits / den).log2 - 52 = n.log2 + 1022 := by
    rw [power, Nat.mul_right_comm, Nat.mul_div_cancel _ positive, log2_mul_two_pow nonzero]
    omega
  have scaled : n * den * oneUnits = n * 2 ^ (52 - n.log2) * (den * 2 ^ (n.log2 + 1022)) := by
    rw [power, parts, Nat.pow_add, Nat.mul_mul_mul_comm]
  rw [codeOfRatio_of_scaled rfl, shift, scaled,
    roundHalfEven_mul _ (Nat.mul_pos positive (Nat.two_pow_pos _))]
  refine Nat.min_eq_right ?_
  change codeOfNat n ≤ 2047 * 2 ^ 52
  unfold codeOfNat
  omega

end Rounding

section Naturals

variable {n : Nat}

/-- The code of a natural number with at most 53 binary digits. -/
theorem code_ofNat (nonzero : 0 < n) (small : n < 2 ^ 53) : (ofNat n).code = codeOfNat n := by
  have exact := codeOfRatio_mul nonzero small Nat.one_pos
  rw [Nat.mul_one] at exact
  unfold ofNat
  rw [code_ofRatio, exact]

/-- A natural number below `2 ^ 53` is a double. -/
theorem units_ofNat (nonzero : 0 < n) (small : n < 2 ^ 53) : (ofNat n).units = n * oneUnits := by
  obtain ⟨low, high⟩ := full_significand nonzero small
  obtain ⟨one, power, exponent⟩ := exists_oneUnits
  have digits := log2_le small
  have parts : one = (52 - n.log2) + (n.log2 + 1022) := by
    rw [exponent]
    omega
  unfold units
  rw [code_ofNat nonzero small, codeOfNat, (unitsOfCode_normal low high).2, power, parts,
    Nat.mul_assoc, ← Nat.pow_add]

private theorem spacing_ofNat (nonzero : 0 < n) (small : n < 2 ^ 53) :
    2 ^ spacing (ofNat n).code ≤ oneUnits := by
  obtain ⟨low, high⟩ := full_significand nonzero small
  obtain ⟨one, power, exponent⟩ := exists_oneUnits
  have digits := log2_le small
  rw [code_ofNat nonzero small, codeOfNat, (unitsOfCode_normal low high).1, power]
  exact Nat.pow_le_pow_right (by decide) (by omega)

private theorem negative_ofCode {code : Nat} (small : code ≤ infinityCode) :
    (ofCode false code).negative = false := by
  have bound : code ≤ 2047 * 2 ^ 52 := small
  have bits : (ofCode false code).bits.toNat = code % 2 ^ 64 := UInt64.toNat_ofNat'
  unfold negative
  rw [bits, Nat.pow_eq]
  exact decide_eq_false (by omega)

private theorem negative_ofNat (n : Nat) : (ofNat n).negative = false :=
  negative_ofCode (codeOfRatio_le n 1)

private theorem withSign_ofRatio (num den : Nat) :
    (ofRatio num den).withSign false = ofRatio num den :=
  congrArg (ofCode false) (code_ofRatio num den)

private theorem isInfinite_ofNat (small : n < UInt64.size) : (ofNat n).isInfinite = false := by
  have finite : (ofNat n).code < infinityCode := of_decide_eq_true (isFinite_ofNat small)
  exact decide_eq_false (Nat.ne_of_lt finite)

private theorem isZero_ofNat (nonzero : 0 < n) : (ofNat n).isZero = false := by
  refine decide_eq_false fun zero => ?_
  have units : (ofNat n).units = 0 := congrArg unitsOfCode zero
  exact absurd (units ▸ le_units_ofNat nonzero) (Nat.not_le_of_lt oneUnits_pos)

/-- The quotient of a product that is a double is not rounded. -/
theorem div_ofNat {k : Nat} (nonzero : 0 < n) (positive : 0 < k) (small : n * k < 2 ^ 53) :
    (ofNat (n * k)).div (ofNat k) = ofNat n := by
  have least : n < 2 ^ 53 := Nat.lt_of_le_of_lt (Nat.le_mul_of_pos_right n positive) small
  have divisor : k < 2 ^ 53 := Nat.lt_of_le_of_lt (Nat.le_mul_of_pos_left k nonzero) small
  have fits {m : Nat} (below : m < 2 ^ 53) : (ofNat m).isInfinite = false :=
    isInfinite_ofNat (Nat.lt_trans below (by decide))
  have quotient : ofRatio (ofNat (n * k)).units (ofNat k).units = ofNat n := by
    rw [units_ofNat (Nat.mul_pos nonzero positive) small, units_ofNat positive divisor,
      Nat.mul_assoc]
    unfold ofNat ofRatio
    rw [codeOfRatio_mul nonzero least (Nat.mul_pos positive oneUnits_pos),
      ← codeOfRatio_mul nonzero least Nat.one_pos, Nat.mul_one]
  unfold div
  simp only [isNaN_ofNat, fits small, fits divisor, isZero_ofNat positive, Bool.or_self,
    Bool.false_eq_true, ↓reduceIte, quotient]
  rw [negative_ofNat, negative_ofNat]
  exact withSign_ofRatio n 1

end Naturals

section Grid

/-- One on the grid of decimals. -/
def oneOnGrid : Nat := 10 ^ gridPower

private theorem oneOnGrid_pos : 0 < oneOnGrid := by
  decide +kernel

/-- The power of five on the grid, as a variable like the power of two. -/
theorem exists_five :
    ∃ five : Nat, Nat.pow 5 gridPower = five ∧ 0 < five ∧ oneOnGrid = 2 * oneUnits * five :=
  ⟨_, rfl, by decide +kernel, by decide +kernel⟩

section Middles

variable {one five step units n : Nat}

private theorem twice_units (exact : units = n * one) :
    (units + units) * five = n * (2 * one * five) := by
  rw [exact, ← Nat.two_mul]
  ac_rfl

private theorem twice_units_succ (exact : units = n * one) :
    (units + units + 2 * one) * five = (n + 1) * (2 * one * five) :=
  calc (units + units + 2 * one) * five = (units + units) * five + 2 * one * five :=
        Nat.add_mul ..
    _ = n * (2 * one * five) + 2 * one * five := by rw [twice_units exact]
    _ = (n + 1) * (2 * one * five) := (Nat.succ_mul ..).symm

private theorem middle_above (exact : units = n * one) (apart : 0 < step) (close : step ≤ one)
    (positive : 0 < five) :
    n * (2 * one * five) < (units + (units + step)) * five ∧
      (units + (units + step)) * five < (n + 1) * (2 * one * five) := by
  rw [← twice_units exact, ← twice_units_succ exact]
  exact ⟨Nat.mul_lt_mul_of_pos_right (by omega) positive,
    Nat.mul_lt_mul_of_pos_right (by omega) positive⟩

private theorem middle_below {before : Nat} (exact : units = n * one) (next : units = before + step)
    (apart : 0 < step) (close : step ≤ one) (positive : 0 < five) :
    n * (2 * one * five) < (before + units) * five + 2 * one * five ∧
      (before + units) * five < n * (2 * one * five) := by
  rw [← twice_units exact, ← Nat.add_mul]
  exact ⟨Nat.mul_lt_mul_of_pos_right (by omega) positive,
    Nat.mul_lt_mul_of_pos_right (by omega) positive⟩

end Middles

variable {n : Nat}

/-- A natural number below `2 ^ 53` lies on the grid of decimals. -/
theorem gridValue_ofNat (nonzero : 0 < n) (small : n < 2 ^ 53) :
    gridValue (ofNat n).code = n * oneOnGrid := by
  have units : unitsOfCode (ofNat n).code = n * oneUnits := units_ofNat nonzero small
  obtain ⟨five, power, _, grid⟩ := exists_five
  unfold gridValue
  rw [power, grid, ← twice_units units, Nat.two_mul]

/-- The middle above a natural number is less than one away. -/
theorem gridMiddle_ofNat (nonzero : 0 < n) (small : n < 2 ^ 53) :
    n * oneOnGrid < gridMiddle (ofNat n).code ∧
      gridMiddle (ofNat n).code < (n + 1) * oneOnGrid := by
  have units : unitsOfCode (ofNat n).code = n * oneUnits := units_ofNat nonzero small
  obtain ⟨five, power, positive, grid⟩ := exists_five
  unfold gridMiddle
  rw [unitsOfCode_succ, power, grid]
  exact middle_above units (Nat.two_pow_pos _) (spacing_ofNat nonzero small) positive

/-- The middle below a natural number is less than one away. -/
theorem gridMiddle_pred_ofNat (nonzero : 0 < n) (small : n < 2 ^ 53) :
    n * oneOnGrid < gridMiddle ((ofNat n).code - 1) + oneOnGrid ∧
      gridMiddle ((ofNat n).code - 1) < n * oneOnGrid := by
  have units : unitsOfCode (ofNat n).code = n * oneUnits := units_ofNat nonzero small
  have close := spacing_ofNat nonzero small
  obtain ⟨before, next⟩ :=
    Nat.exists_eq_succ_of_ne_zero (of_decide_eq_false (isZero_ofNat nonzero))
  rw [next] at units close ⊢
  have narrower : 2 ^ spacing before ≤ oneUnits :=
    Nat.le_trans (Nat.pow_le_pow_right (by decide) (spacing_mono (Nat.le_succ before))) close
  obtain ⟨five, power, positive, grid⟩ := exists_five
  unfold gridMiddle
  rw [Nat.succ_sub_one, power, grid]
  exact middle_below units (unitsOfCode_succ before) (Nat.two_pow_pos _) narrower positive

/-- The only natural number that rounds to a natural number below `2 ^ 53` is this one. -/
theorem roundsTo_ofNat (nonzero : 0 < n) (small : n < 2 ^ 53) (m : Nat) :
    roundsTo (ofNat n).code (m * oneOnGrid) = decide (m = n) := by
  obtain ⟨below, next⟩ := gridMiddle_ofNat nonzero small
  obtain ⟨previous, above⟩ := gridMiddle_pred_ofNat nonzero small
  unfold roundsTo
  dsimp only
  rcases Nat.lt_trichotomy m n with less | rfl | more
  · have further : (m + 1) * oneOnGrid ≤ n * oneOnGrid := Nat.mul_le_mul_right _ less
    rw [Nat.succ_mul] at further
    have outside : m * oneOnGrid < gridMiddle ((ofNat n).code - 1) :=
      Nat.lt_of_add_lt_add_right (Nat.lt_of_le_of_lt further previous)
    simp [Nat.not_le_of_lt outside, Nat.lt_asymm outside, Nat.ne_of_lt less]
  · simp [above, below, Nat.le_of_lt above, Nat.le_of_lt below]
  · have outside : gridMiddle (ofNat n).code < m * oneOnGrid :=
      Nat.lt_of_lt_of_le next (Nat.mul_le_mul_right _ more)
    simp [Nat.not_le_of_lt outside, Nat.lt_asymm outside, Nat.ne_of_gt more]

private theorem nearestMultiple?_of_not_above {tie : Tie} {code step : Nat}
    (above : roundsTo code ((gridValue code / step + 1) * step) = false) :
    nearestMultiple? tie code step =
      if roundsTo code (gridValue code / step * step) then some (gridValue code / step)
      else none := by
  unfold nearestMultiple?
  dsimp only
  rw [above]
  split <;> simp_all

/-- A multiple of a whole step rounds to a natural number below `2 ^ 53` if the step divides it. -/
theorem nearestMultiple?_ofNat (nonzero : 0 < n) (small : n < 2 ^ 53) (tie : Tie) {k : Nat}
    (positive : 0 < k) :
    nearestMultiple? tie (ofNat n).code (k * oneOnGrid) =
      if k ∣ n then some (n / k) else none := by
  have rounds (m : Nat) : roundsTo (ofNat n).code (m * (k * oneOnGrid)) = decide (m * k = n) := by
    rw [← Nat.mul_assoc]
    exact roundsTo_ofNat nonzero small (m * k)
  have quotient : gridValue (ofNat n).code / (k * oneOnGrid) = n / k := by
    rw [gridValue_ofNat nonzero small]
    exact Nat.mul_div_mul_right n k oneOnGrid_pos
  have beyond : (n / k + 1) * k ≠ n :=
    Nat.ne_of_gt ((Nat.div_lt_iff_lt_mul positive).1 (Nat.lt_succ_self _))
  have divides : n / k * k = n ↔ k ∣ n :=
    ⟨fun whole => ⟨n / k, by rw [Nat.mul_comm, whole]⟩, Nat.div_mul_cancel⟩
  rw [nearestMultiple?_of_not_above (by rw [quotient, rounds, decide_eq_false beyond]), quotient,
    rounds]
  simp only [decide_eq_true_eq, divides]

end Grid

end Double

namespace Decimal

/-- A decimal that is a natural number, written without digits behind the point. -/
structure Spells (d : Decimal) (n : Nat) : Prop where
  whole : 0 ≤ d.exponent
  value : d.digits * 10 ^ d.exponent.toNat = n

/-- Zeros that are stripped do not change what a decimal spells. -/
theorem Spells.stripZeros {d : Decimal} {n : Nat} (spelled : d.Spells n) (fuel : Nat) :
    (d.stripZeros fuel).Spells n := by
  induction fuel generalizing d with
  | zero => exact spelled
  | succ fuel ih =>
      unfold Decimal.stripZeros
      split
      · next trailing =>
          obtain ⟨whole, value⟩ := spelled
          refine ih ⟨Int.le_add_one whole, ?_⟩
          have power : (d.exponent + 1).toNat = d.exponent.toNat + 1 := by omega
          rw [power, Nat.pow_succ, Nat.mul_comm (10 ^ _), ← Nat.mul_assoc,
            Nat.div_mul_cancel (Nat.dvd_of_mod_eq_zero trailing.2), value]
      · exact spelled

end Decimal

namespace Double

variable {n : Nat}

private theorem gridPower_lt_size (nonzero : 0 < n) :
    gridPower < (Nat.toDigits 10 (n * oneOnGrid)).length := by
  refine Nat.lt_of_not_le fun short => ?_
  have below := (Nat.length_toDigits_le_iff (by decide) (by decide)).1 short
  change n * oneOnGrid < oneOnGrid at below
  exact Nat.not_lt_of_le (Nat.le_mul_of_pos_left oneOnGrid nonzero) below

private theorem exists_le_of_findSome?_range {β : Type} {f : Nat → Option β} {size last : Nat}
    (listed : last < size) (hit : (f last).isSome) :
    ∃ i ≤ last, ∃ b, f i = some b ∧ (List.range size).findSome? f = some b := by
  induction size with
  | zero => exact absurd listed (Nat.not_lt_zero last)
  | succ size ih =>
      rw [List.range_succ, List.findSome?_append]
      rcases Nat.lt_or_eq_of_le (Nat.le_of_lt_succ listed) with before | rfl
      · obtain ⟨i, early, b, found, first⟩ := ih before
        exact ⟨i, early, b, found, by rw [first, Option.some_or]⟩
      · cases first : (List.range last).findSome? f with
        | some b =>
            obtain ⟨i, member, found⟩ := List.exists_of_findSome?_eq_some first
            exact ⟨i, Nat.le_of_lt (List.mem_range.1 member), b, found, rfl⟩
        | none =>
            obtain ⟨b, found⟩ := Option.isSome_iff_exists.1 hit
            exact ⟨last, Nat.le_refl last, b, found, by simp [found]⟩

/-- The shortest decimal of a natural number below `2 ^ 53` is the number itself. -/
theorem shortest_ofNat (nonzero : 0 < n) (small : n < 2 ^ 53) (tie : Tie) :
    ((ofNat n).shortest tie).Spells n := by
  have size := gridPower_lt_size nonzero
  unfold shortest shortestOfCode
  rw [isZero_ofNat nonzero, gridValue_ofNat nonzero small]
  simp only [Bool.false_eq_true, ↓reduceIte]
  generalize (Nat.toDigits 10 (n * oneOnGrid)).length = length at size ⊢
  have steps {places : Nat} (whole : gridPower ≤ places) :
      nearestMultiple? tie (ofNat n).code (Nat.pow 10 places) =
        if 10 ^ (places - gridPower) ∣ n then some (n / 10 ^ (places - gridPower)) else none := by
    have step : Nat.pow 10 places = 10 ^ (places - gridPower) * oneOnGrid := by
      rw [oneOnGrid, ← Nat.pow_add, Nat.sub_add_cancel whole, Nat.pow_eq]
    rw [step]
    exact nearestMultiple?_ofNat nonzero small tie (Nat.pow_pos (by decide))
  generalize gridPower = power at size steps ⊢
  -- With steps of one the search succeeds, and all steps before these are whole.
  have last : length - 1 - power < length := by omega
  have places : length - 1 - (length - 1 - power) = power := by omega
  let search (i : Nat) : Option Decimal :=
    (nearestMultiple? tie (ofNat n).code (Nat.pow 10 (length - 1 - i))).map fun count =>
      Decimal.stripZeros (i + 2) ⟨count, ((length - 1 - i : Nat) : Int) - power⟩
  have hit : (search (length - 1 - power)).isSome := by
    dsimp only [search]
    rw [places, steps (Nat.le_refl power), Nat.sub_self]
    simp
  obtain ⟨i, early, d, found, first⟩ := exists_le_of_findSome?_range last hit
  change (((List.range length).findSome? search).getD _).Spells n
  rw [first, Option.getD_some]
  have whole : power ≤ length - 1 - i := by omega
  dsimp only [search] at found
  rw [steps whole] at found
  obtain ⟨count, multiple, rfl⟩ := Option.map_eq_some_iff.1 found
  split at multiple
  · next divides =>
      cases multiple
      have here : 0 ≤ ((length - 1 - i : Nat) : Int) - power := by omega
      refine Decimal.Spells.stripZeros ⟨here, ?_⟩ _
      have exponent : (((length - 1 - i : Nat) : Int) - power).toNat = length - 1 - i - power := by
        omega
      dsimp only
      rw [exponent]
      exact Nat.div_mul_cancel divides
  · cases multiple

end Double

namespace Decimal

private theorem Spells.leadingExponent_nonneg {d : Decimal} {n : Nat} (spelled : d.Spells n) :
    0 ≤ d.leadingExponent := by
  have whole := spelled.whole
  have digit : 0 < d.characters.length := List.length_pos_iff.2 Nat.toDigits_ne_nil
  unfold leadingExponent
  omega

/-- The first digit of a natural number stands for less than a power of ten that is larger. -/
theorem Spells.leadingExponent_lt {d : Decimal} {n bound : Nat} (spelled : d.Spells n)
    (nonzero : 0 < n) (small : n < 10 ^ bound) : d.leadingExponent < bound := by
  obtain ⟨whole, value⟩ := spelled
  have digits : 0 < d.digits := by
    refine Nat.pos_of_ne_zero fun zero => ?_
    rw [zero, Nat.zero_mul] at value
    omega
  have short : d.exponent.toNat < bound := by
    refine (Nat.pow_lt_pow_iff_right (show 1 < 10 by decide)).1 ?_
    exact Nat.lt_of_le_of_lt (value ▸ Nat.le_mul_of_pos_left _ digits) small
  have length : d.characters.length ≤ bound - d.exponent.toNat := by
    refine (Nat.length_toDigits_le_iff (by decide) (by omega)).2 ?_
    refine Nat.lt_of_mul_lt_mul_right (a := 10 ^ d.exponent.toNat) ?_
    rw [value, ← Nat.pow_add, Nat.sub_add_cancel (Nat.le_of_lt short)]
    exact small
  unfold leadingExponent
  omega

end Decimal

namespace Double

variable {n : Nat}

/-- A natural number is written with all its digits and one zero behind the point. -/
theorem numeral_ofNat {style : Notation} (nonzero : 0 < n) (small : n < 2 ^ 53)
    (plainFrom : style.plainFrom ≤ 0) (plainBelow : 16 ≤ style.plainBelow) :
    style.numeral (ofNat n) = ⟨false, n, ['0'], none⟩ := by
  have spelled := shortest_ofNat nonzero small style.tie
  have digits : n < 10 ^ 16 := Nat.lt_trans small (by decide)
  have from' : style.plainFrom ≤ ((ofNat n).shortest style.tie).leadingExponent :=
    Int.le_trans plainFrom spelled.leadingExponent_nonneg
  have below : ((ofNat n).shortest style.tie).leadingExponent < style.plainBelow :=
    Int.lt_of_lt_of_le (spelled.leadingExponent_lt nonzero digits) plainBelow
  unfold Notation.numeral Notation.plain
  simp only [from', below, decide_true, Bool.and_self, Bool.or_true, ↓reduceIte, spelled.whole,
    negative_ofNat]
  rw [Nat.pow_eq, spelled.value]

private theorem parts_tenths (small : n * 10 < UInt64.size) :
    Numeral.parts ⟨false, n, ['0'], none⟩ = (n * 10, -1) := by
  have digits : Nat.ofDigitChars 10 (Nat.toDigits 10 n) 0 = n := Nat.ofDigitChars_ten_toDigits
  have whole : Numeral.gather 0 (Nat.toDigits 10 n) = (n, []) := by
    rw [Numeral.gather_of_lt (by omega), digits]
  have zero : Nat.ofDigitChars 10 ['0'] n = n * 10 := by
    rw [Nat.ofDigitChars_cons, Nat.ofDigitChars_nil, Nat.mul_comm]
    rfl
  have fraction : Numeral.gather n ['0'] = (n * 10, []) := by
    rw [Numeral.gather_of_lt (by omega), zero]
  unfold Numeral.parts
  dsimp only
  rw [whole]
  dsimp only
  rw [fraction]
  rfl

/-- A natural number is read back if it stays below `2 ^ 53` with one digit behind the point. -/
theorem ofNumeral?_tenths (nonzero : 0 < n) (small : n * 10 < 2 ^ 53) :
    ofNumeral? ⟨false, n, ['0'], none⟩ = some (ofNat n) := by
  have quotient : (ofNat (n * 10)).scaleDown 1 = ofNat n := by
    rw [scaleDown, if_pos (by decide)]
    exact div_ofNat nonzero (by decide) small
  unfold ofNumeral?
  rw [parts_tenths (Nat.lt_trans small (by decide))]
  change some (((ofNat (n * 10)).scaleDown 1).withSign false) = some (ofNat n)
  rw [quotient]
  exact congrArg some (withSign_ofRatio n 1)

end Double

end ConfigFacts
