import ConfigFacts.Fact.Basic
import ConfigFacts.Proofs.Address
import Mathlib.Data.Nat.Bitwise

/-!
# Intervals and blocks of addresses

The addresses that agree with an address outside of a wildcard form an interval when the free bits
are the last ones (`Address.exists_free_of_trailing`). The interval that a line or a route spans
starts at its address itself. So it is the part of them that starts at the address
(`Address.between_wildcardEnd_iff`), and all of them exactly when no free bit of the address is set
(`Address.between_iff_matches`). A prefix is the wildcard that frees the bits behind it
(`Address.sharesPrefix_iff`). Facts have the ends of such intervals in two columns side by side
(`Fact.spans_of_wildcard`).
-/

namespace ConfigFacts

namespace Address

/-- An address lies between two others, both of them included. -/
def Between (first last x : Address) : Prop :=
  first.toNat ≤ x.toNat ∧ x.toNat ≤ last.toNat

/-- An address agrees with another one on every bit that is not set in a wildcard. -/
def Matches (a wildcard x : Address) : Prop :=
  ∀ i < 32, wildcard.bits.getLsbD i = false → x.bits.getLsbD i = a.bits.getLsbD i

/-- An address shares the first bits of another one. -/
def SharesPrefix (a : Address) (length : Nat) (x : Address) : Prop :=
  ∀ i < length, x.bits.getMsbD i = a.bits.getMsbD i

/-- No bit of an address is set that is set in a wildcard. -/
def Avoids (a wildcard : Address) : Prop :=
  a.bits &&& wildcard.bits = 0#32

/-- The bits behind a prefix, as a wildcard. -/
def hostWildcard (length : Nat) : Address :=
  ⟨BitVec.allOnes 32 >>> length⟩

variable {a w x : Address} {k : Nat}

/-! ### Free bits -/

/-- The set bits of a trailing wildcard are the last ones. -/
theorem exists_free_of_trailing (trailing : w.isTrailingWildcard = true) :
    ∃ k, w.toNat = 2 ^ k - 1 := by
  have disjoint : w.toNat &&& (w.toNat + 1) % 2 ^ 32 = 0 := by
    have bits := congrArg BitVec.toNat (of_decide_eq_true trailing)
    rwa [BitVec.toNat_and, BitVec.toNat_add] at bits
  have bound : w.toNat < 2 ^ 32 := w.bits.isLt
  by_cases full : w.toNat + 1 = 2 ^ 32
  · exact ⟨32, by omega⟩
  · -- Adding one does not overflow, and clears all set bits.
    rw [Nat.mod_eq_of_lt (by omega), Nat.and_comm] at disjoint
    obtain ⟨k, power⟩ := (Nat.and_sub_one_eq_zero_iff_isPowerOfTwo (Nat.succ_ne_zero _)).1 disjoint
    exact ⟨k, by omega⟩

/-- The wildcard of a prefix length is one below a power of two. -/
theorem toNat_hostWildcard (length : Nat) : (hostWildcard length).toNat = 2 ^ (32 - length) - 1 := by
  unfold hostWildcard toNat
  rw [BitVec.toNat_ushiftRight, BitVec.toNat_allOnes, Nat.shiftRight_eq_div_pow]
  apply Nat.eq_of_testBit_eq
  intro i
  rw [Nat.testBit_div_two_pow, Nat.testBit_two_pow_sub_one, Nat.testBit_two_pow_sub_one]
  exact decide_eq_decide.2 (by omega)

/-- The bit of an address at a place counted from its end. -/
theorem getLsbD_eq (i : Nat) : x.bits.getLsbD i = x.toNat.testBit i := rfl

private theorem avoids_iff (free : w.toNat = 2 ^ k - 1) : Avoids a w ↔ a.toNat % 2 ^ k = 0 := by
  have value : (a.bits &&& w.bits).toNat = a.toNat % 2 ^ k := by
    rw [← Nat.and_two_pow_sub_one_eq_mod, ← free, BitVec.toNat_and]
    rfl
  rw [Avoids, ← BitVec.toNat_inj, value]
  rfl

/-! ### Intervals -/

/-- With the last bits free, two addresses match when they agree in front of them. -/
theorem matches_iff (free : w.toNat = 2 ^ k - 1) :
    Matches a w x ↔ x.toNat / 2 ^ k = a.toNat / 2 ^ k := by
  have free' (i : Nat) : w.bits.getLsbD i = decide (i < k) := by
    rw [getLsbD_eq, free, Nat.testBit_two_pow_sub_one]
  constructor
  · intro agrees
    apply Nat.eq_of_testBit_eq
    intro i
    rw [Nat.testBit_div_two_pow, Nat.testBit_div_two_pow, ← getLsbD_eq, ← getLsbD_eq]
    by_cases small : i + k < 32
    · exact agrees _ small (by rw [free']; exact decide_eq_false (by omega))
    · rw [BitVec.getLsbD_of_ge _ _ (Nat.le_of_not_lt small),
        BitVec.getLsbD_of_ge _ _ (Nat.le_of_not_lt small)]
  · intro same i _ fixed
    have behind : k ≤ i := Nat.le_of_not_lt (of_decide_eq_false (free' i ▸ fixed))
    have bit := congrArg (fun n => n.testBit (i - k)) same
    simp only [Nat.testBit_div_two_pow, Nat.sub_add_cancel behind] at bit
    exact bit

/-- The interval up to the highest match holds the matches from the address on. -/
theorem between_wildcardEnd_iff_div (free : w.toNat = 2 ^ k - 1) :
    Between a (a.wildcardEnd w) x ↔
      x.toNat / 2 ^ k = a.toNat / 2 ^ k ∧ a.toNat ≤ x.toNat := by
  have size : 0 < 2 ^ k := Nat.two_pow_pos k
  have last : (a.wildcardEnd w).toNat = a.toNat ||| (2 ^ k - 1) := by
    rw [← free, wildcardEnd, toNat, BitVec.toNat_or]
    rfl
  have front : (a.wildcardEnd w).toNat / 2 ^ k = a.toNat / 2 ^ k := by
    rw [last, Nat.or_div_two_pow, Nat.div_eq_of_lt (Nat.sub_one_lt size.ne'), Nat.or_zero]
  have back : (a.wildcardEnd w).toNat % 2 ^ k = 2 ^ k - 1 := by
    rw [last, Nat.or_mod_two_pow, Nat.mod_eq_of_lt (Nat.sub_one_lt size.ne')]
    refine Nat.le_antisymm (Nat.le_sub_one_of_lt ?_) Nat.right_le_or
    exact Nat.or_lt_two_pow (Nat.mod_lt _ size) (Nat.sub_one_lt size.ne')
  unfold Between
  constructor
  · rintro ⟨above, below⟩
    refine ⟨Nat.le_antisymm ?_ (Nat.div_le_div_right above), above⟩
    exact front ▸ Nat.div_le_div_right below
  · rintro ⟨same, above⟩
    refine ⟨above, ?_⟩
    have rest := Nat.mod_lt x.toNat size
    calc x.toNat = 2 ^ k * (x.toNat / 2 ^ k) + x.toNat % 2 ^ k := (Nat.div_add_mod _ _).symm
      _ ≤ 2 ^ k * (x.toNat / 2 ^ k) + (2 ^ k - 1) := by omega
      _ = 2 ^ k * ((a.wildcardEnd w).toNat / 2 ^ k) + (a.wildcardEnd w).toNat % 2 ^ k := by
        rw [same, front, back]
      _ = (a.wildcardEnd w).toNat := Nat.div_add_mod _ _

private theorem between_wildcardEnd_iff (free : w.toNat = 2 ^ k - 1) :
    Between a (a.wildcardEnd w) x ↔ Matches a w x ∧ a.toNat ≤ x.toNat := by
  rw [between_wildcardEnd_iff_div free, matches_iff free]

/-- The interval up to the highest match holds all matches exactly when no free bit of the address
is set. -/
theorem between_iff_matches (free : w.toNat = 2 ^ k - 1) :
    (∀ x, Between a (a.wildcardEnd w) x ↔ Matches a w x) ↔ Avoids a w := by
  have size : 0 < 2 ^ k := Nat.two_pow_pos k
  simp only [between_wildcardEnd_iff_div free, matches_iff free, and_iff_left_iff_imp,
    avoids_iff free]
  constructor
  · intro complete
    -- The lowest match is the address with its free bits cleared.
    have small : a.toNat / 2 ^ k * 2 ^ k < 2 ^ 32 :=
      Nat.lt_of_le_of_lt (Nat.div_mul_le_self _ _) a.bits.isLt
    have value : (ofNat (a.toNat / 2 ^ k * 2 ^ k)).toNat = a.toNat / 2 ^ k * 2 ^ k := by
      rw [ofNat, toNat, BitVec.toNat_ofNat, Nat.mod_eq_of_lt small]
    have least := complete (ofNat (a.toNat / 2 ^ k * 2 ^ k))
    rw [value, Nat.mul_div_cancel _ size] at least
    have split := Nat.div_add_mod' a.toNat (2 ^ k)
    have above := least rfl
    omega
  · intro aligned x same
    calc a.toNat = a.toNat / 2 ^ k * 2 ^ k := by
          rw [Nat.div_mul_cancel (Nat.dvd_of_mod_eq_zero aligned)]
      _ = x.toNat / 2 ^ k * 2 ^ k := by rw [same]
      _ ≤ x.toNat := Nat.div_mul_le_self _ _

/-! ### Prefixes -/

/-- Sharing a prefix is agreeing outside of the bits behind it. -/
theorem sharesPrefix_iff (length : Nat) :
    SharesPrefix a length x ↔ Matches a (hostWildcard length) x := by
  have fixed {i : Nat} (small : i < 32) :
      (hostWildcard length).bits.getLsbD (31 - i) = false ↔ i < length := by
    rw [getLsbD_eq, toNat_hostWildcard, Nat.testBit_two_pow_sub_one, decide_eq_false_iff_not]
    omega
  have mirrored {y : Address} {i : Nat} (small : i < 32) :
      y.bits.getMsbD i = y.bits.getLsbD (31 - i) := by
    rw [BitVec.getMsbD_eq_getLsbD, decide_eq_true small, Bool.true_and]
  constructor
  · intro shared i small free
    have counted := shared (31 - i) ((fixed (by omega)).1 ?_)
    · rwa [mirrored (by omega), mirrored (by omega), Nat.sub_sub_self (by omega)] at counted
    · rwa [Nat.sub_sub_self (by omega)]
  · intro agrees i inside
    by_cases small : i < 32
    · rw [mirrored small, mirrored small]
      exact agrees _ (by omega) ((fixed small).2 inside)
    · rw [BitVec.getMsbD_of_ge _ _ (Nat.le_of_not_lt small),
        BitVec.getMsbD_of_ge _ _ (Nat.le_of_not_lt small)]

end Address

/-! ### Intervals in facts -/

namespace Fact

/-- An address lies in the range in two columns of a fact that stand side by side. -/
def Covers (f : Fact) (i : Nat) (x : Address) : Prop :=
  ∃ first last : Nat, f.fields[i]? = some (.number first) ∧
    f.fields[i + 1]? = some (.number last) ∧ first ≤ x.toNat ∧ x.toNat ≤ last

/-- The range in a fact holds the addresses with a property from a start on. These are all of them
exactly when no bit of the start is set that is free. -/
structure Spans (f : Fact) (i : Nat) (start free : Address) (p : Address → Prop) : Prop where
  /-- What the range holds. -/
  covers : ∀ x, f.Covers i x ↔ p x ∧ start.toNat ≤ x.toNat
  /-- When the range holds all addresses with the property. -/
  whole : (∀ x, f.Covers i x ↔ p x) ↔ start.Avoids free

variable {f : Fact} {i : Nat} {first last : Address}

/-- The range that a fact covers reaches from one number in it to the next. -/
theorem covers_iff (start : f.fields[i]? = some (.number first.toNat))
    (stop : f.fields[i + 1]? = some (.number last.toNat)) (x : Address) :
    f.Covers i x ↔ Address.Between first last x := by
  unfold Covers Address.Between
  rw [start, stop]
  constructor
  · rintro ⟨_, _, ⟨⟩, ⟨⟩, between⟩
    exact between
  · exact fun between => ⟨_, _, rfl, rfl, between⟩

/-- The range up to the highest match of a wildcard whose free bits are the last ones. -/
theorem spans_of_wildcard {a w : Address} {k : Nat} (free : w.toNat = 2 ^ k - 1)
    (start : f.fields[i]? = some (.number a.toNat))
    (stop : f.fields[i + 1]? = some (.number (a.wildcardEnd w).toNat)) :
    f.Spans i a w (a.Matches w) where
  covers x := (covers_iff start stop x).trans (Address.between_wildcardEnd_iff free)
  whole := by
    simp only [covers_iff start stop]
    exact Address.between_iff_matches free

end Fact

end ConfigFacts
