import ConfigFacts.Pattern.Basic
import ConfigFacts.Pattern.CharacterSet

/-!
# Parts of patterns

A part is a pattern together with what bounds a whole pattern: how deep its text nests, and how
many bytes its automaton takes. `Part.whole?` refuses what exceeds the bounds.
-/

namespace ConfigFacts.Pattern

/-- A piece of a pattern. -/
structure Part where
  /-- What it matches. -/
  pattern : Pattern
  /-- How deep its text nests. -/
  depth : Nat
  /-- The bytes that its automaton takes. -/
  size : Nat

namespace Part

/-- The piece that stands for the empty text. -/
def empty : Part :=
  ⟨.empty, 0, stateSize⟩

/-- One character. -/
def character (c : Char) : Part :=
  ⟨.oneOf fun x => x = c, 0, stateSize * c.utf8Size⟩

/-- One character of a set. -/
def oneOf (set : CharacterSet) : Part :=
  match set.only? with
  | some c => character c
  | none => ⟨.oneOf set.contains, 0, set.size⟩

/-- One character as it is read in a mode. -/
def literal (m : Mode) (c : Char) : Part :=
  if m.ignoresCase then oneOf ((CharacterSet.single c).inMode m) else character c

/-- One character of a set between brackets that nest to some depth. -/
def bracketed (set : CharacterSet) (depth : Nat) : Part :=
  { oneOf set with depth := depth }

/-- A condition on the position. -/
def anchor (a : Anchor) : Part :=
  ⟨.anchor a, 0, stateSize⟩

/-- Pieces one after the other. -/
def sequence : List Part → Part
  | [] => empty
  | [p] => p
  | p :: ps =>
    ⟨ps.foldl (fun q r => .sequence q r.pattern) p.pattern,
      1 + ps.foldl (fun n q => max n q.depth) p.depth, ps.foldl (fun n q => n + q.size) p.size⟩

/-- The choice between pieces. -/
def choice : List Part → Part
  | [] => empty
  | [p] => p
  | p :: ps =>
    ⟨ps.foldl (fun q r => .choice q r.pattern) p.pattern,
      1 + ps.foldl (fun n q => max n q.depth) p.depth,
      ps.foldl (fun n q => n + q.size + branchSize) (p.size + branchSize) + 2 * stateSize⟩

/-- A piece between parentheses, which may remember what it matches. -/
def group (remembers : Bool) (p : Part) : Part :=
  { p with depth := p.depth + 1, size := p.size + if remembers then 2 * stateSize else 0 }

/-- The bytes that a repetition takes: a copy of the piece for each round, with a way out of each
round that need not be taken. -/
def repeatedSize (size least : Nat) : Option Nat → Nat
  | none => max least 1 * size + 2 * stateSize
  | some most => max (most * size) stateSize + (most - least) * (stateSize + 8)

/-- A piece a number of times. A piece that matches only the empty text need not be repeated more
than once. -/
def repeated (p : Part) (least : Nat) (most : Option Nat) : Part :=
  let few (n : Nat) := if p.pattern.matchesOnlyEmpty then min n 1 else n
  ⟨.repeated p.pattern (few least) (most.map few), p.depth + 1,
    repeatedSize p.size (few least) (most.map few)⟩

/-- The deepest nesting of a pattern. -/
def depthLimit : Nat := 250

/-- The most bytes that the automaton of a pattern may take. -/
def sizeLimit : Nat := 10 * 1024 * 1024

/-- The pattern of a piece that keeps to the limits. -/
def whole? (p : Part) : Option Pattern :=
  if p.depth ≤ depthLimit ∧ p.size ≤ sizeLimit then some p.pattern else none

end Part

end ConfigFacts.Pattern
