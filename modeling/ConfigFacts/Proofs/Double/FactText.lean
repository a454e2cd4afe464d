import ConfigFacts.Proofs.Double.Forms
import ConfigFacts.Proofs.Wire.Marks

/-!
# Doubles in facts

The text of a finite double is a numeral that rounds to it (`Double.isNearest_numeral`), so the
texts of different doubles are different (`Double.factText_injective`). The numeral is positional
for zero and from a thousandth up to ten millions, and scientific otherwise
(`Double.factBody_cases`).
-/

namespace ConfigFacts

namespace Double

/-- Two doubles with the same magnitude code and the same sign are the same. -/
theorem eq_of_code {x y : Double} (codes : x.code = y.code) (signs : x.negative = y.negative) :
    x = y := by
  obtain ⟨bits⟩ := x
  obtain ⟨bits'⟩ := y
  have size := bits.toNat_lt
  have size' := bits'.toNat_lt
  unfold code at codes
  unfold negative at signs
  rw [decide_eq_decide] at signs
  rw [Nat.pow_eq] at codes signs
  refine congrArg mk (UInt64.toNat_inj.1 ?_)
  dsimp only at codes signs
  omega

section Nonzero

variable {x : Double}

private theorem code_pos (nonzero : x.isZero = false) : 0 < x.code :=
  Nat.pos_of_ne_zero (of_decide_eq_false nonzero)

private theorem shortest_of_nonzero (nonzero : x.isZero = false) (tie : Tie) :
    x.shortest tie = shortestOfCode tie x.code := by
  unfold shortest
  rw [nonzero, if_neg Bool.false_ne_true]

end Nonzero

section Range

variable {x : Double}

/-- Zero, and the doubles from a thousandth up to ten millions. -/
def IsModerate (x : Double) : Prop :=
  x.isZero ∨ 1 / 1000 ≤ x.magnitude ∧ x.magnitude < 10 ^ 7

private theorem isEdge_thousandth : IsEdge 1072 (ofRatio 1 1000).code :=
  ⟨by decide +kernel, by decide +kernel, by decide +kernel⟩

private theorem isEdge_tenMillions : IsEdge 1082 (ofNat 10000000).code :=
  ⟨by decide +kernel, by decide +kernel, by decide +kernel⟩

private theorem thousandth_le_iff {code : Nat} :
    (1 / 1000 : ℚ) ≤ magnitudeOfCode code ↔ 10 ^ 1072 ≤ gridValue code := by
  have power : (10 : ℚ) ^ (((1072 : Nat) : Int) - gridPower) = 1 / 1000 := by
    rw [show ((1072 : Nat) : Int) - gridPower = -3 from rfl]
    norm_num
  rw [pow_le_gridValue_iff, power]

private theorem tenMillions_le_iff {code : Nat} :
    (10 : ℚ) ^ 7 ≤ magnitudeOfCode code ↔ 10 ^ 1082 ≤ gridValue code := by
  rw [pow_le_gridValue_iff, show ((1082 : Nat) : Int) - gridPower = (7 : Nat) from rfl,
    zpow_natCast]

/-- The least double that is written in positional notation is the one nearest to a thousandth. -/
theorem thousandth_le_iff_double_le :
    1 / 1000 ≤ x.magnitude ↔ (ofRatio 1 1000).magnitude ≤ x.magnitude := by
  unfold magnitude
  rw [thousandth_le_iff, isEdge_thousandth.pow_le_iff, magnitudeOfCode_strictMono.le_iff_le]

/-- The first digit of the shortest decimal tells whether a double is in the range. -/
theorem isModerate_iff : (x.isZero ||
    (factNotation.plainFrom ≤ (x.shortest factNotation.tie).leadingExponent &&
      (x.shortest factNotation.tie).leadingExponent < factNotation.plainBelow)) ↔ x.IsModerate := by
  unfold IsModerate
  cases zero : x.isZero with
  | true => simp
  | false =>
      have low := isEdge_thousandth.le_leadingExponent_iff factNotation.tie (code_pos zero)
      have high := isEdge_tenMillions.le_leadingExponent_iff factNotation.tie (code_pos zero)
      rw [← thousandth_le_iff] at low
      rw [← tenMillions_le_iff] at high
      have range := and_congr low (not_congr high)
      rw [not_le, not_le, ← shortest_of_nonzero zero] at range
      simp only [Bool.false_or, Bool.and_eq_true, decide_eq_true_eq, Bool.false_eq_true, false_or]
      exact range

end Range

section Numeral

variable (x : Double)

/-- The numeral of a double rounds to it. -/
theorem isNearest_numeral (style : Notation) : IsNearest (style.numeral x).magnitude x.code := by
  rw [Notation.magnitude_numeral]
  cases zero : x.isZero with
  | true =>
      have code : x.code = 0 := of_decide_eq_true zero
      have nothing : (x.shortest style.tie).magnitude = magnitudeOfCode 0 := by
        simp [shortest, zero, Decimal.magnitude, magnitudeOfCode, unitsOfCode_eq, significand_eq]
      rw [code, nothing]
      exact isNearest_magnitudeOfCode 0
  | false =>
      obtain ⟨point, rounds, -, found⟩ := exists_point_shortestOfCode style.tie (code_pos zero)
      rw [shortest_of_nonzero zero, found]
      exact isNearest_of_roundsTo (code_pos zero) rounds

private theorem negative_numeral (style : Notation) : (style.numeral x).negative = x.negative := by
  unfold Notation.numeral
  dsimp only
  split
  · unfold Notation.plain
    split <;> rfl
  · rfl

/-- The characters of a double in a fact, without its sign. -/
def factBody : List Char :=
  (factNotation.numeral x).unsigned.characters 'E' false

/-- The numeral is positional in the range and scientific outside of it. -/
theorem factBody_cases :
    x.IsModerate ∧ Text.IsPositional x.factBody ∨
      ¬ x.IsModerate ∧ Text.IsScientific 'E' x.factBody := by
  unfold factBody Notation.numeral
  dsimp only
  split
  · next moderate =>
      exact .inl ⟨isModerate_iff.1 moderate, Notation.isPositional_plain _ _ _ _⟩
  · next extreme =>
      have nonzero : x.isZero = false := Bool.eq_false_iff.2 fun zero => extreme (by simp [zero])
      have positive : 0 < (x.shortest factNotation.tie).digits := by
        rw [shortest_of_nonzero nonzero]
        exact shortestOfCode_digits_pos _ (code_pos nonzero)
      exact .inr ⟨fun moderate => extreme (isModerate_iff.2 moderate),
        Notation.isScientific_scientific positive _ _⟩

/-- The text is positional for moderate doubles only. -/
theorem isPositional_factBody_iff : Text.IsPositional x.factBody ↔ x.IsModerate := by
  rcases x.factBody_cases with ⟨moderate, positional⟩ | ⟨extreme, scientific⟩
  · exact iff_of_true positional moderate
  · exact iff_of_false (fun positional => positional.not_isScientific (.inr rfl) scientific) extreme

/-- The text is scientific for all other doubles. -/
theorem isScientific_factBody_iff : Text.IsScientific 'E' x.factBody ↔ ¬ x.IsModerate := by
  rcases x.factBody_cases with ⟨moderate, positional⟩ | ⟨extreme, scientific⟩
  · exact iff_of_false (positional.not_isScientific (.inr rfl)) (not_not_intro moderate)
  · exact iff_of_true scientific extreme

end Numeral

section Text

variable {x y : Double}

private theorem factText_of_isFinite (finite : x.isFinite) :
    x.factText.toList = factNotation.characters x := by
  have bound : x.code < infinityCode := of_decide_eq_true finite
  have number : x.isNaN = false := decide_eq_false (Nat.lt_asymm bound)
  have bounded : x.isInfinite = false := decide_eq_false (Nat.ne_of_lt bound)
  unfold factText
  rw [number, bounded, if_neg Bool.false_ne_true, if_neg Bool.false_ne_true, String.toList_ofList]

/-- The text of a finite double is read as its numeral. -/
theorem readNumeral_factText (finite : x.isFinite) :
    Json.readNumeral x.factText.toList = some (factNotation.numeral x, []) := by
  have digits : ∀ c ∈ (factNotation.numeral x).fraction, c.isDigit :=
    fun _ => Notation.isDigit_of_mem_fraction
  have nothing : Json.Follows [] := nofun
  have read := Json.readNumeral_characters (.inr rfl) false digits nothing
  rw [List.append_nil] at read
  rw [factText_of_isFinite finite]
  exact read

private theorem isFinite_or_isInfinite (number : x.isNaN = false) :
    x.isFinite ∨ x.isInfinite := by
  have bound : ¬ infinityCode < x.code := of_decide_eq_false number
  rcases Nat.lt_or_eq_of_le (Nat.le_of_not_lt bound) with finite | infinite
  · exact .inl (decide_eq_true finite)
  · exact .inr (decide_eq_true infinite)

private theorem factText_of_isInfinite (infinite : x.isInfinite) :
    x.factText = if x.negative then "-Infinity" else "Infinity" := by
  have code : x.code = infinityCode := of_decide_eq_true infinite
  have number : x.isNaN = false := decide_eq_false (Nat.not_lt_of_le (Nat.le_of_eq code))
  unfold factText
  rw [number, infinite, if_neg Bool.false_ne_true, if_pos rfl]

/-- The text of an infinity is no numeral. -/
theorem factText_ne_of_isInfinite (finite : x.isFinite) (infinite : y.isInfinite) :
    x.factText ≠ y.factText := by
  intro same
  have unread : ∀ sign : Bool,
      Json.readNumeral (if sign then "-Infinity" else "Infinity").toList = none := by decide
  have read := readNumeral_factText finite
  rw [same, factText_of_isInfinite infinite, unread] at read
  cases read

/-- Two doubles with the same text are the same, unless they are not numbers. -/
theorem factText_injective (number : x.isNaN = false) (number' : y.isNaN = false)
    (same : x.factText = y.factText) : x = y := by
  rcases isFinite_or_isInfinite number with finite | infinite <;>
    rcases isFinite_or_isInfinite number' with finite' | infinite'
  · -- Both round what is read, so they have the code and the sign in common.
    have read := readNumeral_factText finite
    rw [same, readNumeral_factText finite'] at read
    have numeral : factNotation.numeral y = factNotation.numeral x :=
      congrArg Prod.fst (Option.some.inj read)
    have nearest := x.isNearest_numeral factNotation
    rw [← numeral] at nearest
    refine eq_of_code (nearest.unique (y.isNearest_numeral factNotation)) ?_
    rw [← x.negative_numeral factNotation, ← numeral, negative_numeral]
  · exact absurd same (factText_ne_of_isInfinite finite infinite')
  · exact absurd same.symm (factText_ne_of_isInfinite finite' infinite)
  · have codes : x.code = y.code :=
      (of_decide_eq_true infinite).trans (of_decide_eq_true infinite').symm
    rw [factText_of_isInfinite infinite, factText_of_isInfinite infinite'] at same
    have signs : ∀ s t : Bool, (if s then "-Infinity" else "Infinity") =
        (if t then "-Infinity" else "Infinity") → s = t := by decide
    exact eq_of_code codes (signs _ _ same)

end Text

/-- **The text of a double identifies it.** Doubles that are numbers have different texts, zero and
its negative included. The text of a finite double is read as a numeral that rounds to it and has
its sign. Behind the sign the text is positional if the double is moderate, which for the lower
bound makes no difference between a thousandth and the double that it rounds to, and scientific
otherwise. No text has a bar or a line feed. -/
theorem factText_identifies :
    (∀ x y : Double, x.isNaN = false → y.isNaN = false → x.factText = y.factText → x = y) ∧
      (∀ x : Double, x.isFinite →
        ∃ n : Numeral, Json.readNumeral x.factText.toList = some (n, []) ∧
          n.negative = x.negative ∧ IsNearest n.magnitude x.code) ∧
      (∀ x : Double, x.isFinite →
        ∃ body : List Char, x.factText.toList = (if x.negative then ['-'] else []) ++ body ∧
          (Text.IsPositional body ↔ x.IsModerate) ∧
          (Text.IsScientific 'E' body ↔ ¬ x.IsModerate)) ∧
      (∀ x : Double, 1 / 1000 ≤ x.magnitude ↔ (ofRatio 1 1000).magnitude ≤ x.magnitude) ∧
      ∀ x : Double, '|' ∉ x.factText.toList ∧ '\n' ∉ x.factText.toList := by
  refine ⟨fun x y => factText_injective, fun x finite => ?_, fun x finite => ?_,
    fun x => thousandth_le_iff_double_le, unmarked_factText⟩
  · exact ⟨_, readNumeral_factText finite, x.negative_numeral factNotation,
      x.isNearest_numeral factNotation⟩
  · refine ⟨x.factBody, ?_, x.isPositional_factBody_iff, x.isScientific_factBody_iff⟩
    rw [factText_of_isFinite finite, Notation.characters, Numeral.characters_eq, negative_numeral]
    rfl

/-- The negative of the double just below a thousandth. -/
theorem factText_identifies_belowThousandth :
    let x := ofCode true ((ofRatio 1 1000).code - 1)
    let y := (ofRatio 9999999999999998 (10 ^ 19)).withSign true
    (x.isNaN = false ∧ y.isNaN = false ∧ x.factText = y.factText ∧ x = y) ∧
      x.isFinite ∧ x.factText = "-9.999999999999998E-4" ∧
      (∃ n : Numeral, Json.readNumeral x.factText.toList = some (n, []) ∧
        n.negative = x.negative ∧ IsNearest n.magnitude x.code) ∧
      ∃ body : List Char, x.factText.toList = (if x.negative then ['-'] else []) ++ body ∧
        (Text.IsPositional body ↔ x.IsModerate) ∧
          (Text.IsScientific 'E' body ↔ ¬ x.IsModerate) := by
  intro x y
  have number : x.isNaN = false := by decide +kernel
  have number' : y.isNaN = false := by decide +kernel
  have same : x.factText = y.factText := by decide +kernel
  have finite : x.isFinite := by decide +kernel
  exact ⟨⟨number, number', same, factText_identifies.1 x y number number' same⟩, finite,
    by decide +kernel, factText_identifies.2.1 x finite, factText_identifies.2.2.1 x finite⟩

end Double

end ConfigFacts
