import ConfigFacts.Proofs.Ranges.Interval
import Mathlib.Data.Nat.Size

/-!
# Wildcards and subnet masks

A wildcard is trailing when its set bits are the last ones (`Address.isTrailingWildcard_iff`). These
are the wildcards whose matches lie side by side, and the complements of the subnet masks
(`Address.isTrailingWildcard_iff_interval`).

The mask of a prefix length has this length, as far as an address has that many bits
(`Address.subnetBits_maskOf`). So the subnet of an interface is the block of its prefix
(`InterfaceAddress.subnet_ofLength`).
-/

namespace ConfigFacts

namespace Address

/-- The address with the other bits set. -/
def complement (a : Address) : Address :=
  ⟨~~~a.bits⟩

/-- The lowest address that a wildcard matches: its set bits are cleared. -/
def wildcardStart (a wildcard : Address) : Address :=
  ⟨a.bits &&& wildcard.complement.bits⟩

/-- The addresses with a property lie side by side. -/
def IsInterval (p : Address → Prop) : Prop :=
  ∃ first last, ∀ x, p x ↔ Between first last x

variable {a w x : Address} {k : Nat}

private theorem complement_complement (a : Address) : a.complement.complement = a :=
  congrArg mk BitVec.not_not

private theorem eq_of_getLsbD (same : ∀ i < 32, a.bits.getLsbD i = x.bits.getLsbD i) : a = x := by
  cases a
  cases x
  exact congrArg mk (BitVec.eq_of_getLsbD_eq same)

/-! ### The lowest and the highest match -/

private theorem matches_wildcardStart_iff : (a.wildcardStart w).Matches w x ↔ a.Matches w x := by
  have kept {i : Nat} (small : i < 32) (fixed : w.bits.getLsbD i = false) :
      (a.wildcardStart w).bits.getLsbD i = a.bits.getLsbD i := by
    simp only [wildcardStart, complement, BitVec.getLsbD_and, BitVec.getLsbD_not, small, fixed,
      decide_true, Bool.not_false, Bool.and_true]
  constructor
  · exact fun agrees i small fixed => (agrees i small fixed).trans (kept small fixed)
  · exact fun agrees i small fixed => (agrees i small fixed).trans (kept small fixed).symm

private theorem avoids_wildcardStart (a w : Address) : (a.wildcardStart w).Avoids w := by
  show a.bits &&& ~~~w.bits &&& w.bits = 0#32
  rw [BitVec.and_assoc, BitVec.and_comm (~~~w.bits), BitVec.and_not_self]
  exact BitVec.and_zero

private theorem wildcardEnd_wildcardStart (a w : Address) :
    (a.wildcardStart w).wildcardEnd w = a.wildcardEnd w := by
  refine eq_of_getLsbD fun i small => ?_
  simp only [wildcardStart, complement, wildcardEnd, BitVec.getLsbD_or, BitVec.getLsbD_and,
    BitVec.getLsbD_not, small, decide_true, Bool.true_and]
  cases w.bits.getLsbD i <;> simp

/-- An address matches the end that a wildcard gives it. -/
theorem matches_wildcardEnd (a w : Address) : a.Matches w (a.wildcardEnd w) := by
  intro i _ fixed
  rw [wildcardEnd, BitVec.getLsbD_or, fixed, Bool.or_false]

/-- No match is above the highest one. -/
theorem le_wildcardEnd_of_matches (agrees : a.Matches w x) :
    x.toNat ≤ (a.wildcardEnd w).toNat := by
  have inside : a.wildcardEnd w = ⟨(a.wildcardEnd w).bits ||| x.bits⟩ := by
    refine eq_of_getLsbD fun i small => ?_
    cases fixed : w.bits.getLsbD i with
    | true => simp only [wildcardEnd, BitVec.getLsbD_or, fixed, Bool.or_true, Bool.true_or]
    | false =>
        simp only [wildcardEnd, BitVec.getLsbD_or, fixed, agrees i small fixed, Bool.or_false,
          Bool.or_self]
  rw [inside, toNat, toNat, BitVec.toNat_or]
  exact Nat.right_le_or

/-- With the last bits free, the matches are what lies between the lowest and the highest one. -/
theorem between_wildcardStart_iff (free : w.toNat = 2 ^ k - 1) :
    Between (a.wildcardStart w) (a.wildcardEnd w) x ↔ a.Matches w x := by
  have whole := (between_iff_matches free).2 (avoids_wildcardStart a w) x
  rw [wildcardEnd_wildcardStart] at whole
  exact whole.trans matches_wildcardStart_iff

/-! ### Trailing wildcards -/

private theorem isTrailingWildcard_of_free (free : w.toNat = 2 ^ k - 1) :
    w.isTrailingWildcard = true := by
  have bound : w.toNat < 2 ^ 32 := w.bits.isLt
  have bits : (w.bits &&& (w.bits + 1#32)).toNat = w.toNat &&& (w.toNat + 1) % 2 ^ 32 := by
    rw [BitVec.toNat_and, BitVec.toNat_add]
    rfl
  refine decide_eq_true (BitVec.eq_of_toNat_eq (bits.trans ?_))
  by_cases full : w.toNat + 1 = 2 ^ 32
  · rw [full, Nat.mod_self, Nat.and_zero]
    rfl
  · -- One more than the wildcard is a power of two, which has none of the bits below it.
    have next : w.toNat + 1 = 2 ^ k := by
      have size : 0 < 2 ^ k := Nat.two_pow_pos k
      omega
    rw [Nat.mod_eq_of_lt (by omega), next, free, Nat.and_comm, Nat.and_two_pow_sub_one_eq_mod,
      Nat.mod_self]
    rfl

/-- The trailing wildcards are those that free the bits behind some prefix. -/
theorem isTrailingWildcard_iff :
    w.isTrailingWildcard = true ↔ ∃ length ≤ 32, w = hostWildcard length := by
  constructor
  · intro trailing
    obtain ⟨k, free⟩ := exists_free_of_trailing trailing
    have bound : w.toNat < 2 ^ 32 := w.bits.isLt
    have small : k ≤ 32 := by
      by_contra large
      have growth : 2 ^ 33 ≤ 2 ^ k := Nat.pow_le_pow_right (by decide) (by omega)
      omega
    refine ⟨32 - k, Nat.sub_le _ _, toNat_injective ?_⟩
    rw [free, toNat_hostWildcard, Nat.sub_sub_self small]
  · rintro ⟨length, _, rfl⟩
    exact isTrailingWildcard_of_free (toNat_hostWildcard length)

/-- A wildcard frees its last bits when nothing up to it has a bit that it fixes. -/
theorem free_of_matches_zero (below : ∀ x, x.toNat ≤ w.toNat → zero.Matches w x) :
    w.toNat = 2 ^ w.toNat.size - 1 := by
  apply Nat.eq_of_testBit_eq
  intro i
  rw [Nat.testBit_two_pow_sub_one, Bool.eq_iff_iff, decide_eq_true_eq, Nat.lt_size]
  constructor
  · exact Nat.ge_two_pow_of_testBit
  · intro reached
    have small : 2 ^ i < 2 ^ 32 := Nat.lt_of_le_of_lt reached w.bits.isLt
    have value : (ofNat (2 ^ i)).toNat = 2 ^ i := by
      rw [ofNat, toNat, BitVec.toNat_ofNat, Nat.mod_eq_of_lt small]
    have agrees := below (ofNat (2 ^ i)) (value.trans_le reached)
    by_contra unset
    have bit := agrees i ((Nat.pow_lt_pow_iff_right (by decide)).1 small)
      (Bool.eq_false_iff.2 unset)
    rw [getLsbD_eq, value, Nat.testBit_two_pow_self] at bit
    exact absurd bit (by simp [zero])

/-- The matches of zero lie side by side only if the last bits are the free ones. -/
theorem free_of_isInterval (interval : IsInterval (zero.Matches w)) :
    w.toNat = 2 ^ w.toNat.size - 1 := by
  obtain ⟨first, last, between⟩ := interval
  have lowest := (between zero).1 fun _ _ _ => rfl
  have highest : zero.Matches w w := fun i _ fixed => by
    rw [fixed]
    exact (BitVec.getLsbD_zero).symm
  refine free_of_matches_zero fun x small => (between x).2 ⟨?_, ?_⟩
  · exact lowest.1.trans (Nat.zero_le _)
  · exact small.trans ((between w).1 highest).2

/-! ### Subnet masks -/

/-- The mask of a prefix length is the complement of its wildcard. -/
theorem maskOf_eq (length : Nat) : maskOf length = (hostWildcard length).complement := by
  rw [maskOf, networkEnd, hostWildcard, complement, zero, BitVec.zero_or]

/-- The leading set bits are counted up to the first unset one. -/
theorem subnetBits_eq (small : k ≤ 32) (set : ∀ i < k, a.bits.getMsbD i = true)
    (stop : k < 32 → a.bits.getMsbD k = false) : a.subnetBits = k := by
  have split : List.range 32 = List.range k ++ (List.range (32 - k)).map (k + ·) := by
    rw [← List.range_add, Nat.add_sub_cancel' small]
  have rest : ((List.range (32 - k)).map (k + ·)).takeWhile (fun i => a.bits.getMsbD i) = [] := by
    cases left : 32 - k with
    | zero => rfl
    | succ n =>
        rw [List.range_succ_eq_map, List.map_cons, List.takeWhile_cons, Nat.add_zero,
          stop (by omega)]
        rfl
  rw [subnetBits, split,
    List.takeWhile_append_of_pos fun i member => set i (List.mem_range.1 member), rest,
    List.append_nil, List.length_range]

/-- The mask of a prefix length has this length. -/
theorem subnetBits_maskOf (length : Nat) : (maskOf length).subnetBits = min length 32 := by
  have bit {i : Nat} (small : i < 32) : (maskOf length).bits.getMsbD i = decide (i < length) := by
    rw [maskOf_eq, complement, BitVec.getMsbD_not, hostWildcard, BitVec.getMsbD_ushiftRight,
      BitVec.getMsbD_allOnes, decide_eq_true small, decide_eq_true (by omega : i - length < 32)]
    by_cases counted : i < length <;> simp [counted]
  refine subnetBits_eq (Nat.min_le_right _ _) (fun i counted => ?_) fun small => ?_
  · rw [bit (by omega)]
    exact decide_eq_true (by omega)
  · rw [bit small]
    exact decide_eq_false (by omega)

/-- **Trailing wildcards are the representable ones.** A wildcard is trailing exactly when for every
address the addresses that agree with it on all bits outside of the wildcard lie side by side, in
which case the last of them is the end of the wildcard. These are exactly the wildcards whose
complement is the mask of a subnet: it is the mask of its own prefix length. -/
theorem isTrailingWildcard_iff_interval (w : Address) :
    (w.isTrailingWildcard = true ↔ ∀ a : Address, IsInterval (a.Matches w)) ∧
      (∀ a first last : Address, (∀ x, a.Matches w x ↔ Between first last x) →
        last = a.wildcardEnd w) ∧
      (w.isTrailingWildcard = true ↔ maskOf w.complement.subnetBits = w.complement) := by
  refine ⟨⟨fun trailing a => ?_, fun interval => ?_⟩, fun a first last between => ?_, ?_, ?_⟩
  · obtain ⟨k, free⟩ := exists_free_of_trailing trailing
    exact ⟨_, _, fun x => (between_wildcardStart_iff free).symm⟩
  · exact isTrailingWildcard_of_free (free_of_isInterval (interval zero))
  · have reached := (between _).1 (matches_wildcardEnd a w)
    have inside := (between last).2 ⟨reached.1.trans reached.2, Nat.le_refl _⟩
    exact toNat_injective (Nat.le_antisymm (le_wildcardEnd_of_matches inside) reached.2)
  · intro trailing
    obtain ⟨length, small, rfl⟩ := isTrailingWildcard_iff.1 trailing
    rw [← maskOf_eq, subnetBits_maskOf, Nat.min_eq_left small]
  · intro mask
    have host : hostWildcard w.complement.subnetBits = w := by
      have same := congrArg complement mask
      rwa [maskOf_eq, complement_complement, complement_complement] at same
    exact isTrailingWildcard_iff.2 ⟨_, subnetBits_le _, host.symm⟩

/-- A wildcard for the last octet matches intervals, and one for a bit in it does not. -/
theorem isTrailingWildcard_iff_interval_of_octet :
    (ofNat 255).isTrailingWildcard = true ∧
      (∃ first, ∀ x, (ofNat 167772165).Matches (ofNat 255) x ↔
        Between first (ofNat 167772415) x) ∧
      (ofNat 2).isTrailingWildcard = false ∧
      ¬ ∀ a : Address, IsInterval (a.Matches (ofNat 2)) := by
  have trailing : (ofNat 255).isTrailingWildcard = true := by decide
  have gap : (ofNat 2).isTrailingWildcard = false := by decide
  obtain ⟨interval, ends, _⟩ := isTrailingWildcard_iff_interval (ofNat 255)
  obtain ⟨first, last, between⟩ := interval.1 trailing (ofNat 167772165)
  obtain rfl := ends _ first last between
  refine ⟨trailing, ⟨first, between⟩, gap, fun all => ?_⟩
  have other := (isTrailingWildcard_iff_interval (ofNat 2)).1.2 all
  rw [gap] at other
  cases other

end Address

namespace InterfaceAddress

/-- **Subnets are blocks.** An interface with the mask of a prefix length has this prefix length, or
32 if it is larger. Its subnet holds exactly the addresses that agree with the one of the interface
on that many first bits, and ends where the network of the address ends. -/
theorem subnet_ofLength (ip : Address) (length : Nat) :
    let a := ofLength ip length
    a.prefixLength = min length 32 ∧
      (∀ x, Address.Between a.network (a.network.networkEnd a.prefixLength) x ↔
        ip.SharesPrefix (min length 32) x) ∧
      a.network.networkEnd a.prefixLength = ip.networkEnd length := by
  intro a
  have counted : a.prefixLength = min length 32 := Address.subnetBits_maskOf length
  have host : Address.hostWildcard (min length 32) = Address.hostWildcard length := by
    apply Address.toNat_injective
    rw [Address.toNat_hostWildcard, Address.toNat_hostWildcard]
    congr 2
    omega
  have start : a.network = ip.wildcardStart (.hostWildcard length) :=
    congrArg (fun mask : Address => Address.mk (ip.bits &&& mask.bits)) (Address.maskOf_eq length)
  have stop : a.network.networkEnd a.prefixLength = ip.wildcardEnd (.hostWildcard length) :=
    calc a.network.networkEnd a.prefixLength
        = a.network.wildcardEnd (.hostWildcard (min length 32)) := congrArg _ counted
      _ = (ip.wildcardStart (.hostWildcard length)).wildcardEnd (.hostWildcard length) := by
        rw [host, start]
      _ = ip.wildcardEnd (.hostWildcard length) := Address.wildcardEnd_wildcardStart _ _
  refine ⟨counted, fun x => ?_, stop⟩
  rw [stop, start, Address.sharesPrefix_iff, host]
  exact Address.between_wildcardStart_iff (Address.toNat_hostWildcard length)

end InterfaceAddress

end ConfigFacts
