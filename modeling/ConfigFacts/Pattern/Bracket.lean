import ConfigFacts.Pattern.Escape

/-!
# Bracketed sets in patterns

A set between brackets is a union of characters, ranges, named sets and further bracketed sets.
Unions can be joined by intersection, difference and symmetric difference, from left to right.
-/

namespace ConfigFacts.Pattern

/-- A set as it is written, with the depth of the brackets in it. -/
structure WrittenSet where
  /-- The set. -/
  set : CharacterSet
  /-- How deep its text nests. -/
  depth : Nat

namespace WrittenSet

/-- A set that is written without brackets. -/
def flat (set : CharacterSet) : WrittenSet :=
  ⟨set, 0⟩

/-- The union of written sets. -/
def union : List WrittenSet → WrittenSet
  | [] => flat .empty
  | [s] => s
  | ss => ⟨.ofList (ss.map WrittenSet.set), 1 + (ss.map WrittenSet.depth).foldl max 0⟩

end WrittenSet

/-- A sign that joins two sets. -/
inductive Join where
  /-- The characters of both. -/
  | inter
  /-- The characters of the first only. -/
  | diff
  /-- The characters of exactly one. -/
  | symmDiff

namespace Join

/-- Two sets joined. -/
def apply : Join → CharacterSet → CharacterSet → CharacterSet
  | inter => .inter
  | diff => .diff
  | symmDiff => .symmDiff

/-- The character that is written twice to join two sets. -/
def ofChar? : Char → Option Join
  | '&' => some inter
  | '-' => some diff
  | '~' => some symmDiff
  | _ => none

end Join

/-- What has been read inside of one pair of brackets. -/
structure Bracket where
  /-- Whether the set is what the brackets do not hold. -/
  negated : Bool
  /-- What stands before the last joining sign, and that sign. -/
  left : Option (WrittenSet × Join)
  /-- The members of the union behind it, the last one first. -/
  items : List WrittenSet

namespace Bracket

/-- The set of what has been read, before negation. -/
def joined (m : Mode) (b : Bracket) : WrittenSet :=
  let right := WrittenSet.union b.items
  match b.left with
  | none => right
  | some (left, join) =>
    ⟨join.apply (left.set.inMode m) (right.set.inMode m), 1 + max left.depth right.depth⟩

/-- A further member of the union. -/
def add (b : Bracket) (s : WrittenSet) : Bracket :=
  { b with items := s :: b.items }

/-- The bracket behind a joining sign. -/
def join (m : Mode) (b : Bracket) (sign : Join) : Bracket :=
  { b with left := some (b.joined m, sign), items := [] }

/-- The set of a bracket that is closed. Where sets are ASCII no set is negated. -/
def close? (m : Mode) (b : Bracket) : Option WrittenSet :=
  let inner := b.joined m
  let set := inner.set.inMode m
  if b.negated then
    if m.unicode then some ⟨set.complement, inner.depth + 1⟩ else none
  else some ⟨set, inner.depth + 1⟩

/-- A bracket as it is opened: a sign for negation, dashes, and a closing bracket that nothing
precedes stand at its start. -/
def opened (m : Mode) (s : List Char) : Bracket × List Char :=
  let (negated, s) := match m.skip s with
    | '^' :: s => (true, m.skip s)
    | s => (false, s)
  match m.run (· = '-') s with
  | ([], ']' :: s) => (⟨negated, none, [.flat (.single ']')]⟩, m.skip s)
  | (dashes, s) => (⟨negated, none, dashes.map fun c => .flat (.single c)⟩, s)

end Bracket

/-- A set of ASCII characters by its name between colons and brackets, read behind the first
bracket. -/
def readAsciiSet? (s : List Char) : Option (Bool × CharacterSet × List Char) := do
  guard (s.head? = some ':')
  let s := s.drop 1
  let negated := s.head? = some '^'
  let s := if negated then s.drop 1 else s
  match s.span (· != ':') with
  | (name, ':' :: ']' :: rest) =>
    return (negated, ← asciiSets.lookup (String.ofList name), rest)
  | _ => none

/-- An item inside of brackets. -/
def readMember? (m : Mode) : List Char → Option (Item × List Char)
  | [] => none
  | '\\' :: s => readEscape? m s
  | c :: s => some (.character c, s)

/-- The character that an item stands for inside of brackets. -/
def memberLiteral? (m : Mode) (i : Item) : Option Char :=
  (i.literal? m).filter fun c => m.unicode || c.toNat < 128

/-- An item or a range of characters. -/
def readRange? (m : Mode) (s : List Char) : Option (WrittenSet × List Char) := do
  let (first, s) ← readMember? m s
  let alone := (memberLiteral? m first).map CharacterSet.single <|> first.set? m
  match m.skip s with
  | [] => none
  | '-' :: s =>
    if m.peek s = some ']' ∨ m.peek s = some '-' then return (.flat (← alone), '-' :: s)
    else
      let (last, s) ← readMember? m (m.skip s)
      let first ← memberLiteral? m first
      let last ← memberLiteral? m last
      if first ≤ last then return (.flat (.range first last), s) else none
  | s => return (.flat (← alone), s)

/-- The rest of a bracketed set inside of others, with a bound on the number of its items. -/
def readBracket? (m : Mode) : Nat → Bracket → List Bracket → List Char →
    Option (WrittenSet × List Char)
  | 0, _, _, _ => none
  | n + 1, b, outer, s =>
    match m.skip s with
    | [] => none
    | '[' :: s =>
      match readAsciiSet? s with
      | some (negated, set, s) => do
        guard (m.unicode || !negated)
        let set := set.inMode m
        readBracket? m n (b.add (.flat (if negated then set.complement else set))) outer s
      | none =>
        let (inner, s) := Bracket.opened m s
        readBracket? m n inner (b :: outer) s
    | ']' :: s => do
      let set ← b.close? m
      match outer with
      | [] => return (set, s)
      | b :: outer => readBracket? m n (b.add set) outer s
    | c :: s =>
      match if s.head? = some c then Join.ofChar? c else none with
      | some sign => readBracket? m n (b.join m sign) outer (s.drop 1)
      | none => do
        let (set, s) ← readRange? m (c :: s)
        readBracket? m n (b.add set) outer s

/-- A bracketed set, read behind its first bracket. -/
def readSet? (m : Mode) (s : List Char) : Option (WrittenSet × List Char) :=
  let (b, s) := Bracket.opened m s
  readBracket? m (s.length + 1) b [] s

end ConfigFacts.Pattern
