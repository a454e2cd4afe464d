import ConfigFacts.Address
import ConfigFacts.Proofs.Text.Digits
import Mathlib.Algebra.Group.Nat.Defs

/-!
# Notation and subnets

The dotted notation of an address is read as this address (`Address.ofString?_toString`).

The subnet of an interface runs from the address with the unmasked bits cleared to the last address
with the same leading bits. It holds the address of the interface (`InterfaceAddress.network_le`,
`InterfaceAddress.le_networkEnd`), also when set bits of the mask stand behind unset ones.
-/

namespace ConfigFacts

namespace Address

/-- The largest address, as a number. -/
def largest : Nat := 2 ^ 32 - 1

/-- Addresses are told apart by their numbers. -/
theorem toNat_injective : Function.Injective toNat := by
  rintro ⟨bits⟩ ⟨bits'⟩ same
  exact congrArg mk (BitVec.eq_of_toNat_eq same)

theorem toNat_le_largest (a : Address) : a.toNat ≤ largest :=
  Nat.le_sub_one_of_lt a.bits.isLt

/-- An address is not behind the end of its network. -/
theorem toNat_le_networkEnd (a : Address) (length : Nat) :
    a.toNat ≤ (a.networkEnd length).toNat := by
  unfold networkEnd toNat
  rw [BitVec.toNat_or]
  exact Nat.left_le_or

/-- An address is not behind the end that a wildcard gives it. -/
theorem toNat_le_wildcardEnd (a wildcard : Address) :
    a.toNat ≤ (a.wildcardEnd wildcard).toNat := by
  unfold wildcardEnd toNat
  rw [BitVec.toNat_or]
  exact Nat.left_le_or

section Notation

theorem octet_lt (a : Address) (i : Nat) : a.octet i < 256 :=
  Nat.mod_lt _ (by decide)

private theorem octet?_toDigits {n : Nat} (small : n < 256) :
    octet? (Nat.toDigits 10 n) = some n := by
  simp [octet?, Text.natural?_toDigits, small]

private theorem splitOn_characters (a : Address) :
    a.characters.splitOn '.' = [Nat.toDigits 10 (a.octet 0), Nat.toDigits 10 (a.octet 1),
      Nat.toDigits 10 (a.octet 2), Nat.toDigits 10 (a.octet 3)] := by
  have point (n : Nat) : '.' ∉ Nat.toDigits 10 n := Text.not_mem_toDigits rfl
  have written : a.characters = ['.'].intercalate [Nat.toDigits 10 (a.octet 0),
      Nat.toDigits 10 (a.octet 1), Nat.toDigits 10 (a.octet 2), Nat.toDigits 10 (a.octet 3)] := by
    simp [characters, List.intercalate]
  rw [written, List.splitOn_intercalate]
  · simp [point]
  · simp

/-- An address is made of its octets. -/
theorem ofNat_octets (a : Address) :
    ofNat ((a.octet 0 * 256 + a.octet 1) * 65536 + a.octet 2 * 256 + a.octet 3) = a := by
  obtain ⟨bits⟩ := a
  have bound : bits.toNat < 2 ^ 32 := bits.isLt
  apply toNat_injective
  simp only [ofNat, octet, toNat, Nat.pow_eq, BitVec.toNat_ofNat]
  omega

/-- The notation of an address is read as this address. -/
@[simp] theorem ofString?_toString (a : Address) : ofString? (toString a) = some a := by
  show ofCharacters? (String.ofList a.characters).toList = some a
  rw [String.toList_ofList]
  unfold ofCharacters?
  rw [splitOn_characters]
  simp [octet?_toDigits (octet_lt a _), ofNat_octets]

end Notation

end Address

/-- A mask asks for 32 bits at most. -/
theorem Address.subnetBits_le (mask : Address) : mask.subnetBits ≤ 32 :=
  Nat.le_trans (List.takeWhile_sublist _).length_le (Nat.le_of_eq List.length_range)

/-- The bits that the prefix length of a mask counts are set. -/
theorem Address.getMsbD_of_lt_subnetBits {mask : Address} {i : Nat}
    (counted : i < mask.subnetBits) : mask.bits.getMsbD i = true := by
  let isSet (i : Nat) : Bool := mask.bits.getMsbD i
  have inside : i < ((List.range 32).takeWhile isSet).length := counted
  have position : ((List.range 32).takeWhile isSet)[i] = i := by
    rw [(List.takeWhile_prefix isSet).getElem inside, List.getElem_range]
  have set := List.all_eq_true.1 List.all_takeWhile _ (List.getElem_mem inside)
  rwa [position] at set

namespace InterfaceAddress

variable (a : InterfaceAddress)

/-- A network starts no later than the address in it. -/
theorem network_le : a.network.toNat ≤ a.ip.toNat := by
  unfold network Address.toNat
  rw [BitVec.toNat_and]
  exact Nat.and_le_left

/-- A network ends no earlier than the address in it. -/
theorem le_networkEnd : a.ip.toNat ≤ (a.network.networkEnd a.prefixLength).toNat := by
  -- The mask clears only bits that are set again behind the prefix.
  have restored : a.ip.bits &&& a.mask.bits ||| BitVec.allOnes 32 >>> a.prefixLength =
      a.ip.bits ||| BitVec.allOnes 32 >>> a.prefixLength := by
    apply BitVec.eq_of_getMsbD_eq
    intro i small
    rw [BitVec.getMsbD_or, BitVec.getMsbD_or, BitVec.getMsbD_and]
    by_cases counted : i < a.prefixLength
    · rw [Address.getMsbD_of_lt_subnetBits counted, Bool.and_true]
    · have free : (BitVec.allOnes 32 >>> a.prefixLength).getMsbD i = true := by
        have later : i - a.prefixLength < 32 := by omega
        simp only [BitVec.getMsbD_ushiftRight, BitVec.getMsbD_allOnes, small, counted, later,
          decide_true, decide_false, Bool.not_false, Bool.and_true]
      rw [free, Bool.or_true, Bool.or_true]
  unfold network Address.networkEnd Address.toNat
  simp only [restored]
  rw [BitVec.toNat_or]
  exact Nat.left_le_or

end InterfaceAddress

end ConfigFacts
