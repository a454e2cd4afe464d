import ConfigFacts.Text.Digits

/-!
# Addresses

IPv4 addresses, the blocks that a prefix length or a wildcard mask cuts out around an address, and
their dotted notation. `Address.ofString?` accepts exactly the texts that `Address.toString` writes:
four octets without leading zeros between points.
-/

namespace ConfigFacts

/-- An IPv4 address. -/
structure Address where
  /-- The address as a number of 32 bits. -/
  bits : BitVec 32
  deriving DecidableEq, Inhabited

namespace Address

/-- The address of a number. -/
def ofNat (n : Nat) : Address :=
  ⟨.ofNat 32 n⟩

/-- The number of an address. -/
def toNat (a : Address) : Nat :=
  a.bits.toNat

/-- The address that stands for no address. -/
def zero : Address :=
  ⟨0#32⟩

/-- The last address of the block that starts at an address and has a prefix length. Lengths
above 32 count as 32. -/
def networkEnd (a : Address) (length : Nat) : Address :=
  ⟨a.bits ||| (BitVec.allOnes 32 >>> length)⟩

/-- The highest address that a wildcard matches: its set bits are free. -/
def wildcardEnd (a wildcard : Address) : Address :=
  ⟨a.bits ||| wildcard.bits⟩

/-- The number of set bits in front of the first unset one. -/
def subnetBits (a : Address) : Nat :=
  ((List.range 32).takeWhile fun i => a.bits.getMsbD i).length

/-- Whether all set bits come after all unset ones. -/
def isTrailingWildcard (a : Address) : Bool :=
  a.bits &&& (a.bits + 1#32) = 0#32

/-- The subnet mask of a prefix length. -/
def maskOf (length : Nat) : Address :=
  ⟨~~~(zero.networkEnd length).bits⟩

/-- One of the four octets, counted from the left. -/
def octet (a : Address) (i : Nat) : Nat :=
  a.toNat / Nat.pow 256 (3 - i) % 256

/-- The four octets between points. -/
def characters (a : Address) : List Char :=
  Nat.toDigits 10 (a.octet 0) ++ '.' :: Nat.toDigits 10 (a.octet 1)
    ++ '.' :: Nat.toDigits 10 (a.octet 2) ++ '.' :: Nat.toDigits 10 (a.octet 3)

instance : ToString Address :=
  ⟨fun a => String.ofList a.characters⟩

/-- An octet in decimal notation without leading zeros. -/
def octet? (s : List Char) : Option Nat :=
  (Text.natural? s).filter fun n => n < 256 ∧ s = Nat.toDigits 10 n

/-- The address of a dotted notation. -/
def ofCharacters? (s : List Char) : Option Address :=
  match s.splitOn '.' with
  | [a, b, c, d] => do
    return .ofNat (((← octet? a) * 256 + (← octet? b)) * 65536 + (← octet? c) * 256 + (← octet? d))
  | _ => none

/-- The address of a dotted notation. -/
def ofString? (s : String) : Option Address :=
  ofCharacters? s.toList

end Address

/-- The address of an interface with its subnet mask. -/
structure InterfaceAddress where
  /-- The address. -/
  ip : Address
  /-- The subnet mask. -/
  mask : Address
  deriving DecidableEq, Inhabited

namespace InterfaceAddress

/-- The address with the mask of a prefix length. -/
def ofLength (ip : Address) (length : Nat) : InterfaceAddress :=
  ⟨ip, .maskOf length⟩

/-- The prefix length of the mask. -/
def prefixLength (a : InterfaceAddress) : Nat :=
  a.mask.subnetBits

/-- The first address of the subnet. -/
def network (a : InterfaceAddress) : Address :=
  ⟨a.ip.bits &&& a.mask.bits⟩

end InterfaceAddress

end ConfigFacts
