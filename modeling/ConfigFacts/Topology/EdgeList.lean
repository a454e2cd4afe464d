import ConfigFacts.Text.Blank
import ConfigFacts.Text.Lines
import ConfigFacts.Topology

/-!
# Edge lists

The text of a topology has one edge in a line, `node1:int1,node2:int2`, with or without parentheses
around it. What follows a `#` is a comment, and lines that hold nothing else are skipped.
`Topology.ofText?` reads such a text or reports the first line that is no edge.
-/

namespace ConfigFacts

/-- What is wrong with a line. -/
inductive EdgeFault where
  /-- One of the parentheses is missing. -/
  | parentheses
  /-- The line has not exactly two ends. -/
  | ends (line : String)
  /-- The node of an end is missing. -/
  | node
  /-- The interface of an end is missing. -/
  | interface
  deriving DecidableEq

/-- A line of a text that is no edge. -/
structure EdgeListError where
  /-- The number of the line, from one on. -/
  line : Nat
  /-- What is wrong with it. -/
  fault : EdgeFault
  deriving DecidableEq

/-- The text of an error. -/
def EdgeListError.message (e : EdgeListError) : String :=
  match e.fault with
  | .parentheses => s!"Unbalanced parentheses on line {e.line}!"
  | .ends content => s!"Unexpected Token on line {e.line}: {content}"
  | .node => s!"Endpoint is missing the node name on line {e.line}!"
  | .interface => s!"Endpoint is missing the interface name on line {e.line}!"

namespace EdgeList

/-- A line without its comment and without blanks around it. -/
def statement (line : List Char) : List Char :=
  Text.trim (line.takeWhile (· != '#'))

/-- What stands between the parentheses around a line, or all of a line without parentheses. -/
def body? (s : List Char) : Except EdgeFault (List Char) :=
  if s.head? = some '(' then
    if s.getLast? = some ')' then .ok (Text.trim (s.drop 1).dropLast) else .error .parentheses
  else if s.getLast? = some ')' then .error .parentheses
  else .ok s

/-- The node and the interface of an end. Only the first colon separates them. -/
def endpoint? (s : List Char) : Except EdgeFault (String × String) :=
  match (Text.trim s).span (· != ':') with
  | (_, []) => .error .interface
  | (node, _ :: interface) =>
    let node := Text.trim node
    let interface := Text.trim interface
    if node.isEmpty then .error .node
    else if interface.isEmpty then .error .interface
    else .ok (String.ofList node, String.ofList interface)

/-- The edge of a line without comment. -/
def edge? (s : List Char) : Except EdgeFault Edge := do
  match (← body? s).splitOn ',' with
  | [first, second] =>
    let (node1, int1) ← endpoint? first
    let (node2, int2) ← endpoint? second
    return ⟨node1, int1, node2, int2⟩
  | _ => .error (.ends (String.ofList s))

/-- The edges of some lines, of which the first one has a given number. -/
def edges? (number : Nat) : List (List Char) → Except EdgeListError (List Edge)
  | [] => .ok []
  | line :: rest =>
    let s := statement line
    if s.isEmpty then edges? (number + 1) rest
    else match edge? s with
      | .error fault => .error ⟨number, fault⟩
      | .ok e => (edges? (number + 1) rest).map (e :: ·)

end EdgeList

/-- The topology of an edge list. -/
def Topology.ofText? (text : String) : Except EdgeListError Topology :=
  (EdgeList.edges? 1 (Text.lines text.toList)).map Topology.mk

end ConfigFacts
