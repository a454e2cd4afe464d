import ConfigFacts.SortedMap

/-!
# Communities

BGP community values, their `high:low` notation, and sets of them.
-/

namespace ConfigFacts

/-- A BGP community. -/
structure Community where
  /-- The value of 32 bits. -/
  value : UInt32
  deriving DecidableEq, Inhabited

namespace Community

/-- The upper half of the value. -/
def high (c : Community) : Nat :=
  c.value.toNat / UInt16.size

/-- The lower half of the value. -/
def low (c : Community) : Nat :=
  c.value.toNat % UInt16.size

/-- The characters of the `high:low` notation. -/
def characters (c : Community) : List Char :=
  Nat.toDigits 10 c.high ++ ':' :: Nat.toDigits 10 c.low

instance : ToString Community :=
  ⟨fun c => String.ofList c.characters⟩

end Community

/-- A finite set of community values, in ascending order. -/
abbrev CommunitySet := SortedMap UInt32 Unit

namespace CommunitySet

/-- The set of the members of a list. -/
def ofList (cs : List Community) : CommunitySet :=
  SortedMap.ofList (cs.map fun c => (c.value, ()))

/-- The members, in ascending order. -/
def members (s : CommunitySet) : List Community :=
  s.keys.map Community.mk

end CommunitySet

end ConfigFacts
