/-!
# Patterns

A pattern describes parts of texts. `Pattern.reach` is the relation between the positions of a text
at which a match may start and those at which it may end, computed once for each piece of the
pattern; `Pattern.foundIn` says whether there is a match anywhere. A text with `n` characters has
`n + 1` positions, and a relation is the table of its truth values.
-/

namespace ConfigFacts

namespace Pattern

/-- A condition on a position of a text. -/
inductive Anchor where
  /-- Nothing stands before the position. -/
  | start
  /-- Nothing stands behind the position. -/
  | finish
  /-- A word starts or ends at the position. -/
  | wordBorder
  /-- No word starts or ends at the position. -/
  | noWordBorder
  /-- A word starts at the position. -/
  | wordStart
  /-- A word ends at the position. -/
  | wordFinish
  /-- No word goes on before the position. -/
  | afterNoWord
  /-- No word goes on behind the position. -/
  | beforeNoWord
  deriving DecidableEq

/-- Whether a character beside a position belongs to a word. -/
def ofWord (c : Option Char) : Bool :=
  c.any fun c => c.isAlphanum || c = '_'

/-- Whether a condition holds between two neighbouring characters. -/
def Anchor.holds (a : Anchor) (before after : Option Char) : Bool :=
  match a with
  | start => before.isNone
  | finish => after.isNone
  | wordBorder => ofWord before != ofWord after
  | noWordBorder => ofWord before == ofWord after
  | wordStart => !ofWord before && ofWord after
  | wordFinish => ofWord before && !ofWord after
  | afterNoWord => !ofWord before
  | beforeNoWord => !ofWord after

end Pattern

open Pattern in
/-- A description of texts. -/
inductive Pattern where
  /-- The empty text. -/
  | empty
  /-- One character of a set. -/
  | oneOf (set : Char → Bool)
  /-- The empty text at a position with a condition. -/
  | anchor (a : Anchor)
  /-- A match of the first pattern and then one of the second. -/
  | sequence (p q : Pattern)
  /-- A match of either pattern. -/
  | choice (p q : Pattern)
  /-- A number of matches one after the other, at most some or any number. -/
  | repeated (p : Pattern) (least : Nat) (most : Option Nat)

namespace Pattern

/-- A relation between positions of a text: for each start a row of truth values for the ends. -/
abbrev Reach := List (List Bool)

namespace Reach

/-- The relation of a test on starts and ends among some positions. -/
def table (positions : Nat) (test : Nat → Nat → Bool) : Reach :=
  (List.range positions).map fun i => (List.range positions).map (test i)

/-- The relation of each position to itself. -/
def identity (positions : Nat) : Reach :=
  table positions fun i j => i = j

/-- The pairs in either relation. -/
def union (a b : Reach) : Reach :=
  a.zipWith (List.zipWith or) b

/-- The ends of a relation for some starts. -/
def image (starts : List Bool) (b : Reach) : List Bool :=
  (starts.zip b).foldl (fun ends (here, row) => if here then ends.zipWith or row else ends)
    (starts.map fun _ => false)

/-- The pairs that lead from a start of the first relation over a position to an end of the second
one. -/
def comp (a b : Reach) : Reach :=
  a.map fun starts => image starts b

/-- A function applied a number of times; once it changes nothing it is not applied again. -/
def iterate (f : Reach → Reach) : Nat → Reach → Reach
  | 0, a => a
  | n + 1, a =>
    let next := f a
    if next = a then a else iterate f n next

end Reach

/-- The character in front of a position. -/
def before (text : List Char) (i : Nat) : Option Char :=
  if i = 0 then none else text[i - 1]?

/-- The character behind a position. -/
def after (text : List Char) (i : Nat) : Option Char :=
  text[i]?

/-- The starts and ends of the matches of a pattern in a text. -/
def reach (text : List Char) : Pattern → Reach
  | empty => .identity (text.length + 1)
  | oneOf set => .table (text.length + 1) fun i j => j = i + 1 && (after text i).any set
  | anchor a =>
    .table (text.length + 1) fun i j => i = j && a.holds (before text i) (after text i)
  | sequence p q => (p.reach text).comp (q.reach text)
  | choice p q => (p.reach text).union (q.reach text)
  | repeated p least most =>
    let once := p.reach text
    let rounds := most.elim (text.length + 1) fun most => most - least
    Reach.iterate (fun a => a.union (a.comp once)) rounds
      (Reach.iterate (·.comp once) least (.identity (text.length + 1)))

/-- Whether a pattern matches some part of a text. -/
def foundIn (p : Pattern) (text : List Char) : Bool :=
  (p.reach text).any fun ends => ends.any id

/-- Whether only the empty text can match. -/
def matchesOnlyEmpty : Pattern → Bool
  | empty | anchor _ => true
  | oneOf _ => false
  | sequence p q | choice p q => p.matchesOnlyEmpty && q.matchesOnlyEmpty
  | repeated p _ most => most = some 0 || p.matchesOnlyEmpty

end Pattern

end ConfigFacts
