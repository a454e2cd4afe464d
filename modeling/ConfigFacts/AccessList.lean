import ConfigFacts.Address
import ConfigFacts.LineAction
import ConfigFacts.Span

/-!
# Access lists

Ordered lists of lines that match packet headers by wildcard masks, a protocol and ports.
-/

namespace ConfigFacts

/-- The number of an IP protocol; zero stands for every protocol. -/
structure Protocol where
  /-- The protocol number. -/
  number : UInt8
  deriving DecidableEq, Inhabited

namespace Protocol

/-- Every IP protocol. -/
def ip : Protocol := ⟨0⟩

/-- The protocol ICMP. -/
def icmp : Protocol := ⟨1⟩

/-- The protocol TCP. -/
def tcp : Protocol := ⟨6⟩

/-- The protocol UDP. -/
def udp : Protocol := ⟨17⟩

/-- Whether packets of the protocol have ports. -/
def hasPorts (p : Protocol) : Bool :=
  p = tcp || p = udp

instance : ToString Protocol where
  toString p :=
    if p = ip then "ip"
    else if p = icmp then "icmp"
    else if p = tcp then "tcp"
    else if p = udp then "udp"
    else toString p.number.toNat

end Protocol

/-- A line of an access list. -/
structure AccessListLine where
  /-- What happens to matching packets. -/
  action : LineAction
  /-- The protocol of matching packets. -/
  protocol : Protocol
  /-- The source address. -/
  source : Address
  /-- The bits of the source address that are free. -/
  sourceWildcard : Address
  /-- The destination address. -/
  destination : Address
  /-- The bits of the destination address that are free. -/
  destinationWildcard : Address
  /-- The source ports. -/
  sourcePorts : List Span
  /-- The destination ports. -/
  destinationPorts : List Span
  deriving DecidableEq, Inhabited

/-- A line describes ranges of addresses when the free bits of both wildcards are the last ones. -/
def AccessListLine.isValid (line : AccessListLine) : Bool :=
  line.sourceWildcard.isTrailingWildcard && line.destinationWildcard.isTrailingWildcard

/-- An access list. -/
structure AccessList where
  /-- The lines, in the order in which they are tried. -/
  lines : List AccessListLine
  deriving DecidableEq, Inhabited

end ConfigFacts
