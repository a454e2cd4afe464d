import ConfigFacts.Double.Reading
import Mathlib.Algebra.Group.Nat.Defs

/-!
# Reading does not overflow

A numeral is read as a finite double or not at all (`Double.isFinite_of_ofNumeral?`), and every
natural number below `2 ^ 64` is read (`Double.isSome_ofNumeral?_ofNat`).

Both rest on one bound: a ratio that is at most the largest finite magnitude rounds to a finite
code (`Double.codeOfRatio_lt`).
-/

namespace ConfigFacts

namespace Double

/-- One in units. -/
def oneUnits : Nat := Nat.pow 2 unitPower

/-- The largest exponent of a spacing between finite magnitudes. -/
def maxSpacing : Nat := 2045

/-- The largest finite magnitude in units. -/
def maxUnits : Nat := (2 ^ 53 - 1) * 2 ^ maxSpacing

theorem oneUnits_pos : 0 < oneUnits := by
  decide +kernel

theorem oneUnits_mul_self : oneUnits * oneUnits = Nat.pow 2 (2 * unitPower) := by
  decide +kernel

/-- A ratio that is at most a number does not round to a larger one. -/
theorem roundHalfEven_le {num den bound : Nat} (small : num ≤ bound * den) :
    roundHalfEven num den ≤ bound := by
  have parts := Nat.div_add_mod num den
  unfold roundHalfEven
  by_cases exact : num % den = 0
  · have floor : num / den ≤ bound := Nat.div_le_of_le_mul (Nat.mul_comm bound den ▸ small)
    rcases Nat.eq_zero_or_pos den with rfl | positive
    · simp only [Nat.div_zero, Nat.mod_zero] at exact ⊢
      simp [exact]
    · simpa only [exact, Nat.mul_zero, positive, ↓reduceIte] using floor
  · -- a remainder leaves room for rounding up
    have below : num / den < bound := by
      refine Nat.lt_of_mul_lt_mul_right (a := den) ?_
      rw [Nat.mul_comm (num / den)]
      omega
    dsimp only
    split
    · omega
    · split <;> omega

/-- A ratio that is at least a number does not round to a smaller one. -/
theorem le_roundHalfEven {num den bound : Nat} (positive : 0 < den)
    (large : bound * den ≤ num) :
    bound ≤ roundHalfEven num den := by
  have floor : bound ≤ num / den := (Nat.le_div_iff_mul_le positive).2 large
  unfold roundHalfEven
  dsimp only
  split
  · exact floor
  · split <;> omega

section Shift

variable {scaled den shift : Nat}

/-- The shift of a ratio leaves 53 binary digits. -/
theorem scaled_le (positive : 0 < den) (shifted : (scaled / den).log2 - 52 = shift) :
    scaled ≤ 2 ^ 53 * (den * 2 ^ shift) := by
  have digits : scaled / den < 2 ^ (shift + 53) :=
    Nat.lt_of_lt_of_le Nat.lt_log2_self (Nat.pow_le_pow_right (by decide) (by omega))
  have bound := (Nat.div_lt_iff_lt_mul positive).1 digits
  rw [Nat.pow_add] at bound
  calc scaled ≤ 2 ^ shift * 2 ^ 53 * den := Nat.le_of_lt bound
    _ = 2 ^ 53 * (den * 2 ^ shift) := by ac_rfl

private theorem shift_le {top : Nat} (small : scaled ≤ (2 ^ 53 - 1) * 2 ^ top * den)
    (shifted : (scaled / den).log2 - 52 = shift) : shift ≤ top := by
  have quotient : scaled / den ≤ (2 ^ 53 - 1) * 2 ^ top :=
    Nat.div_le_of_le_mul (Nat.mul_comm _ den ▸ small)
  by_cases zero : scaled / den = 0
  · rw [zero] at shifted
    exact shifted ▸ Nat.zero_le top
  · have below : scaled / den < 2 ^ (53 + top) := by
      rw [Nat.pow_add]
      exact Nat.lt_of_le_of_lt quotient
        (Nat.mul_lt_mul_of_pos_right (by decide) (Nat.two_pow_pos top))
    have := (Nat.log2_lt zero).2 below
    omega

private theorem shifted_code_lt (top : Nat) (positive : 0 < den)
    (small : scaled ≤ (2 ^ 53 - 1) * 2 ^ top * den)
    (shifted : (scaled / den).log2 - 52 = shift) :
    shift * 2 ^ 52 + roundHalfEven scaled (den * 2 ^ shift) < (top + 2) * 2 ^ 52 := by
  -- Only at the top spacing would digits that round up to `2 ^ 53` be one too many.
  rcases Nat.lt_or_eq_of_le (shift_le small shifted) with below | rfl
  · have rounded := roundHalfEven_le (scaled_le positive shifted)
    omega
  · have rounded : roundHalfEven scaled (den * 2 ^ shift) ≤ 2 ^ 53 - 1 :=
      roundHalfEven_le (Nat.le_trans small (Nat.le_of_eq (by ac_rfl)))
    omega

private theorem le_shifted_code (low : Nat) (positive : 0 < den)
    (normal : 2 ^ (low + 52) * den ≤ scaled)
    (shifted : (scaled / den).log2 - 52 = shift) :
    (low + 1) * 2 ^ 52 ≤ shift * 2 ^ 52 + roundHalfEven scaled (den * 2 ^ shift) := by
  have quotient : 2 ^ (low + 52) ≤ scaled / den := (Nat.le_div_iff_mul_le positive).2 normal
  have nonzero : scaled / den ≠ 0 := Nat.ne_of_gt (Nat.lt_of_lt_of_le (Nat.two_pow_pos _) quotient)
  have exponent : low + 52 ≤ (scaled / den).log2 := (Nat.le_log2 nonzero).2 quotient
  have leading : 2 ^ (shift + 52) ≤ scaled / den := by
    have below := Nat.log2_self_le nonzero
    rwa [show (scaled / den).log2 = shift + 52 by omega] at below
  have digits : 2 ^ 52 * (den * 2 ^ shift) ≤ scaled := by
    have bound := (Nat.le_div_iff_mul_le positive).1 leading
    rw [Nat.pow_add] at bound
    exact Nat.le_trans (Nat.le_of_eq (by ac_rfl)) bound
  have rounded := le_roundHalfEven (Nat.mul_pos positive (Nat.two_pow_pos shift)) digits
  omega

end Shift

theorem codeOfRatio_of_scaled {num den scaled : Nat} (scale : num * oneUnits = scaled) :
    codeOfRatio num den = min infinityCode (((scaled / den).log2 - 52) * 2 ^ 52
      + roundHalfEven scaled (den * 2 ^ ((scaled / den).log2 - 52))) := by
  unfold oneUnits at scale
  subst scale
  rfl

/-- A ratio that is at most the largest finite magnitude rounds to a finite code. -/
theorem codeOfRatio_lt {num den : Nat} (positive : 0 < den)
    (small : num * oneUnits ≤ maxUnits * den) : codeOfRatio num den < infinityCode := by
  rw [codeOfRatio_of_scaled rfl]
  exact Nat.lt_of_le_of_lt (Nat.min_le_right ..) (shifted_code_lt maxSpacing positive small rfl)

/-- No ratio rounds to a code above that of infinity. -/
theorem codeOfRatio_le (num den : Nat) : codeOfRatio num den ≤ infinityCode :=
  Nat.min_le_left ..

private theorem unitsOfCode_le {top code : Nat} (finite : code < (top + 2) * 2 ^ 52) :
    unitsOfCode code ≤ (2 ^ 53 - 1) * 2 ^ top := by
  have spaced : spacing code ≤ top := by
    change code / 2 ^ 52 - 1 ≤ top
    omega
  have digits : significand code ≤ 2 ^ 53 - 1 := by
    change code - (code / 2 ^ 52 - 1) * 2 ^ 52 ≤ 2 ^ 53 - 1
    omega
  exact Nat.mul_le_mul digits (Nat.pow_le_pow_right (by decide) spaced)

private theorem le_unitsOfCode {low code : Nat} (large : (low + 1) * 2 ^ 52 ≤ code) :
    2 ^ (low + 52) ≤ unitsOfCode code := by
  have spaced : low ≤ spacing code := by
    change low ≤ code / 2 ^ 52 - 1
    omega
  have digits : 2 ^ 52 ≤ significand code := by
    change 2 ^ 52 ≤ code - (code / 2 ^ 52 - 1) * 2 ^ 52
    omega
  rw [Nat.pow_add, Nat.mul_comm]
  exact Nat.mul_le_mul digits (Nat.pow_le_pow_right (by decide) spaced)

section Code

variable {negative : Bool} {code : Nat}

private theorem code_ofCode (small : code ≤ infinityCode) : (ofCode negative code).code = code := by
  have bound : code ≤ 2047 * 2 ^ 52 := small
  change (UInt64.ofNat (if negative then 2 ^ 63 + code else code)).toNat % 2 ^ 63 = code
  rw [UInt64.toNat_ofNat']
  cases negative <;> simp <;> omega

private theorem isFinite_ofCode (finite : code < infinityCode) :
    (ofCode negative code).isFinite := by
  unfold isFinite
  rw [code_ofCode (Nat.le_of_lt finite)]
  exact decide_eq_true finite

private theorem isFinite_withSign {x : Double} (finite : x.isFinite) :
    (x.withSign negative).isFinite :=
  isFinite_ofCode (of_decide_eq_true finite)

end Code

theorem code_ofRatio (num den : Nat) : (ofRatio num den).code = codeOfRatio num den :=
  code_ofCode (codeOfRatio_le num den)

private theorem units_le {x : Double} (finite : x.isFinite) : x.units ≤ maxUnits := by
  have bound : x.code < (maxSpacing + 2) * 2 ^ 52 := of_decide_eq_true finite
  exact unitsOfCode_le bound

/-- A natural number other than zero has at least as many units as one. -/
theorem le_units_ofNat {n : Nat} (positive : 0 < n) : oneUnits ≤ (ofNat n).units := by
  -- The exponent of one stays a variable, so that no step evaluates a power of this size.
  have bound (low : Nat) (one : oneUnits = 2 ^ (low + 52))
      (small : (low + 1) * 2 ^ 52 ≤ infinityCode) : oneUnits ≤ (ofNat n).units := by
    have normal : 2 ^ (low + 52) * 1 ≤ n * oneUnits := by
      rw [← one, Nat.mul_one]
      exact Nat.le_mul_of_pos_left oneUnits positive
    have code : (low + 1) * 2 ^ 52 ≤ (ofNat n).code := by
      unfold ofNat
      rw [code_ofRatio, codeOfRatio_of_scaled rfl]
      exact Nat.le_min.2 ⟨small, le_shifted_code low Nat.one_pos normal rfl⟩
    rw [one]
    exact le_unitsOfCode code
  exact bound 1022 (by decide +kernel) (by decide)

/-- A ratio that is at most the largest finite magnitude is finite. -/
theorem isFinite_ofRatio {num den : Nat} (positive : 0 < den)
    (small : num * oneUnits ≤ maxUnits * den) : (ofRatio num den).isFinite :=
  isFinite_ofCode (codeOfRatio_lt positive small)

/-- A number of 64 bits is a finite double. -/
theorem isFinite_ofNat {n : Nat} (small : n < UInt64.size) : (ofNat n).isFinite := by
  have spread (k : Nat) (most : maxUnits = (2 ^ 53 - 1) * 2 ^ k * oneUnits) (enough : 64 ≤ k) :
      n * oneUnits ≤ maxUnits * 1 := by
    have large : 2 ^ 64 ≤ 2 ^ k := Nat.pow_le_pow_right (by decide) enough
    have digits : 2 ^ k ≤ (2 ^ 53 - 1) * 2 ^ k := Nat.le_mul_of_pos_left _ (by decide)
    rw [most, Nat.mul_one]
    exact Nat.mul_le_mul_right _ (Nat.le_trans (Nat.le_of_lt small) (Nat.le_trans large digits))
  exact isFinite_ofRatio Nat.one_pos (spread 971 (by decide +kernel) (by decide))

/-- A quotient by a number that is not below one does not overflow. -/
theorem isFinite_div {x y : Double} (finite : x.isFinite) (ordered : y.isNaN = false)
    (large : oneUnits ≤ y.units) : (x.div y).isFinite := by
  have bound : x.code < infinityCode := of_decide_eq_true finite
  have number : x.isNaN = false := decide_eq_false (Nat.lt_asymm bound)
  have bounded : x.isInfinite = false := decide_eq_false (Nat.ne_of_lt bound)
  unfold div
  simp only [number, ordered, bounded, Bool.or_self, Bool.false_eq_true, ↓reduceIte]
  split
  · exact isFinite_ofCode (by decide)
  · split
    next zero =>
      have none : y.units = 0 := congrArg unitsOfCode (of_decide_eq_true zero)
      exact absurd (none ▸ large) (Nat.not_le_of_lt oneUnits_pos)
    next nonzero =>
      have positive : 0 < y.units := Nat.lt_of_lt_of_le oneUnits_pos large
      exact isFinite_withSign (isFinite_ofRatio positive (Nat.mul_le_mul (units_le finite) large))

private theorem units_one : (ofNat 1).units = oneUnits := by
  decide +kernel

private theorem isFinite_mulFinite_one {x : Double} (finite : x.isFinite) :
    (x.mulFinite (ofNat 1)).isFinite := by
  unfold mulFinite
  rw [units_one, ← oneUnits_mul_self]
  refine isFinite_withSign (isFinite_ofRatio (Nat.mul_pos oneUnits_pos oneUnits_pos) ?_)
  rw [Nat.mul_assoc]
  exact Nat.mul_le_mul_right (oneUnits * oneUnits) (units_le finite)

private theorem le_units_power (places : Nat) : oneUnits ≤ (ofNat (Nat.pow 10 places)).units :=
  le_units_ofNat (Nat.pow_pos (by decide))

/-- A natural number is no NaN. -/
theorem isNaN_ofNat (n : Nat) : (ofNat n).isNaN = false := by
  unfold isNaN ofNat
  rw [code_ofRatio]
  exact decide_eq_false (Nat.not_lt_of_le (codeOfRatio_le n 1))

private theorem isFinite_scaleDown {x : Double} (finite : x.isFinite) (places : Nat) :
    (x.scaleDown places).isFinite := by
  fun_induction scaleDown x places with
  | case1 x places one =>
      exact isFinite_div finite (isNaN_ofNat _) (le_units_power _)
  | case2 => exact finite
  | case3 x places many nonzero ih =>
      exact ih (isFinite_div finite (isNaN_ofNat _) (le_units_power _))

private theorem isFinite_of_scaleUp? {x y : Double} {places : Nat} (finite : x.isFinite)
    (scaled : x.scaleUp? places = some y) : y.isFinite := by
  unfold scaleUp? at scaled
  split at scaled
  · dsimp only at scaled
    split at scaled
    · cases scaled
      assumption
    · cases scaled
  · split at scaled
    · cases scaled
      exact finite
    · cases scaled

end Double

namespace Numeral

private theorem gather_lt {significand : Nat} (small : significand < UInt64.size)
    (digits : List Char) :
    (gather significand digits).1 < UInt64.size := by
  induction digits generalizing significand with
  | nil => exact small
  | cons c rest ih =>
      unfold gather
      dsimp only
      split
      · exact ih ‹_›
      · exact small

/-- Digits that stay below `2 ^ 64` are all gathered. -/
theorem gather_of_lt {significand : Nat} {digits : List Char}
    (small : Nat.ofDigitChars 10 digits significand < UInt64.size) :
    gather significand digits = (Nat.ofDigitChars 10 digits significand, []) := by
  induction digits generalizing significand with
  | nil => rfl
  | cons c rest ih =>
      rw [Nat.ofDigitChars_cons] at small ⊢
      have next : Nat.ofDigitChars 10 [c] significand = 10 * significand + (c.toNat - '0'.toNat) := by
        rw [Nat.ofDigitChars_cons, Nat.ofDigitChars_nil]
      have grown : 10 * significand + (c.toNat - '0'.toNat) < UInt64.size := by
        rw [Nat.ofDigitChars_eq_ofDigitChars_zero] at small
        have := Nat.le_mul_of_pos_left (10 * significand + (c.toNat - '0'.toNat))
          (Nat.pow_pos (n := rest.length) (show 0 < 10 by decide))
        omega
      unfold gather
      dsimp only
      rw [next, if_pos grown]
      exact ih small

private theorem parts_lt (n : Numeral) : n.parts.1 < UInt64.size :=
  gather_lt (gather_lt (by decide) _) _

private theorem parts_ofNat {n : Nat} (small : n < UInt64.size) : (ofNat n).parts = (n, 0) := by
  have whole : gather 0 (Nat.toDigits 10 n) = (n, []) := by
    have digits : Nat.ofDigitChars 10 (Nat.toDigits 10 n) 0 = n := Nat.ofDigitChars_ten_toDigits
    rw [gather_of_lt (digits.symm ▸ small), digits]
  unfold parts ofNat
  rw [whole]
  rfl

end Numeral

namespace Double

/-- What a numeral is read as is finite. -/
theorem isFinite_of_ofNumeral? {n : Numeral} {x : Double} (read : ofNumeral? n = some x) :
    x.isFinite := by
  have significand : (ofNat n.parts.1).isFinite := isFinite_ofNat n.parts_lt
  obtain ⟨y, scaled, rfl⟩ := Option.map_eq_some_iff.1 read
  refine isFinite_withSign ?_
  split at scaled
  · exact isFinite_of_scaleUp? significand scaled
  · cases scaled
    exact isFinite_scaleDown significand _

/-- Every natural number of 64 bits is read. -/
theorem isSome_ofNumeral?_ofNat {n : Nat} (small : n < UInt64.size) :
    (ofNumeral? (.ofNat n)).isSome := by
  have product : ((ofNat n).mulFinite (ofNat (Nat.pow 10 0))).isFinite :=
    isFinite_mulFinite_one (isFinite_ofNat small)
  have scaled : (ofNat n).scaleUp? 0 = some ((ofNat n).mulFinite (ofNat (Nat.pow 10 0))) := by
    unfold scaleUp?
    rw [if_pos (Nat.zero_le maxPower)]
    exact if_pos product
  unfold ofNumeral?
  rw [Numeral.parts_ofNat small]
  dsimp only
  rw [if_pos (Int.le_refl 0), Int.toNat_zero, scaled]
  rfl

end Double

end ConfigFacts
