import ConfigFacts.Fact.Basic
import ConfigFacts.Json.Form

/-!
# Topologies

The physical links of a network, as a list of edges between interfaces.
-/

namespace ConfigFacts

/-- A link between two interfaces. -/
structure Edge where
  /-- The first device. -/
  node1 : String
  /-- The interface of the first device. -/
  int1 : String
  /-- The second device. -/
  node2 : String
  /-- The interface of the second device. -/
  int2 : String
  deriving DecidableEq, Inhabited

namespace Edge

/-- The order of edges: by the first device, its interface, the second device and its interface. -/
def compare (a b : Edge) : Ordering :=
  (Ord.compare a.node1 b.node1).then <| (Ord.compare a.int1 b.int1).then <|
    (Ord.compare a.node2 b.node2).then <| Ord.compare a.int2 b.int2

/-- The two ends of an edge lie on the same segment. -/
def fact (e : Edge) : Fact :=
  ⟨.samePhysicalSegment, [e.node1, e.int1, e.node2, e.int2]⟩

/-- The record of an edge in dumps, its members by name. -/
def dump (e : Edge) : Json :=
  .record [("int1", toJson e.int1), ("int2", toJson e.int2), ("node1", toJson e.node1),
    ("node2", toJson e.node2)]

end Edge

instance : Form Edge where
  toJson e := .record [("node1", toJson e.node1), ("int1", toJson e.int1),
    ("node2", toJson e.node2), ("int2", toJson e.int2)]
  ofJson? room value := do
    let fields ← value.fields? ["node1", "int1", "node2", "int2"] room
    return {
      node1 := ← fields.required "node1"
      int1 := ← fields.required "int1"
      node2 := ← fields.required "node2"
      int2 := ← fields.required "int2" }

/-- The links of a network. -/
structure Topology where
  /-- The edges, in the order in which they are found. -/
  edges : List Edge
  deriving DecidableEq, Inhabited

namespace Topology

/-- The topology without edges. -/
def empty : Topology :=
  ⟨[]⟩

/-- The topology with a further edge. -/
def add (t : Topology) (e : Edge) : Topology :=
  ⟨t.edges ++ [e]⟩

/-- The topology with its edges in order. -/
def sorted (t : Topology) : Topology :=
  ⟨t.edges.mergeSort fun a b => (a.compare b).isLE⟩

/-- One fact for each edge. -/
def facts (t : Topology) : List Fact :=
  t.edges.map Edge.fact

/-- The JSON value of a topology in dumps. -/
def dump (t : Topology) : Json :=
  .record [("edges", .array (t.edges.map Edge.dump))]

end Topology

instance : Form Topology where
  toJson t := .record [("edges", toJson t.edges)]
  ofJson? room value := do
    let fields ← value.fields? ["edges"] room
    return { edges := ← fields.required "edges" }

end ConfigFacts
