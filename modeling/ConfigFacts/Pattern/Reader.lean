import ConfigFacts.Pattern.Bracket
import ConfigFacts.Text.Letters

/-!
# Reading patterns

`Pattern.ofString?` is the pattern that a text denotes. The text is read item by item; what has
been read so far is kept for each pair of parentheses that is still open.
-/

namespace ConfigFacts.Pattern

/-- What has been read inside of one pair of parentheses. -/
structure Level where
  /-- How the text is read. -/
  mode : Mode
  /-- Whether the parentheses remember what they match. -/
  remembers : Bool
  /-- The finished branches of the choice, the last one first. -/
  branches : List Part
  /-- The pieces of the branch that is being read, the last one first, each with the mark whether
  it can be repeated. -/
  pieces : List (Part × Bool)

namespace Level

/-- A level in which nothing has been read. -/
def opened (mode : Mode) (remembers : Bool) : Level :=
  ⟨mode, remembers, [], []⟩

/-- A further piece of the branch. -/
def add (l : Level) (p : Part) : Level :=
  { l with pieces := (p, true) :: l.pieces }

/-- The branch that is being read. -/
def branch (l : Level) : Part :=
  .sequence (l.pieces.reverse.map Prod.fst)

/-- The level behind the end of a branch. -/
def nextBranch (l : Level) : Level :=
  { l with branches := l.branch :: l.branches, pieces := [] }

/-- The choice between all branches. -/
def choice (l : Level) : Part :=
  .choice (l.branch :: l.branches).reverse

/-- The level behind a list of flags, which is a piece that cannot be repeated. -/
def withFlags (l : Level) (items : List Char) : Level :=
  { l with mode := l.mode.withFlags items, pieces := (.empty, false) :: l.pieces }

/-- The level behind a sign that repeats the last piece. -/
def repeatLast? (l : Level) (least : Nat) (most : Option Nat) : Option Level :=
  match l.pieces with
  | (p, true) :: pieces => some { l with pieces := (p.repeated least most, true) :: pieces }
  | _ => none

end Level

/-- A pattern that is being read. -/
structure Reading where
  /-- The innermost level. -/
  level : Level
  /-- The levels around it, from the inside out. -/
  outer : List Level
  /-- The names of parentheses. -/
  names : List (List Char)

namespace Reading

/-- The start of a pattern. -/
def initial : Reading :=
  ⟨.opened .initial false, [], []⟩

/-- A reading with a further piece. -/
def add (r : Reading) (p : Part) : Reading :=
  { r with level := r.level.add p }

/-- A reading inside of new parentheses. -/
def enter (r : Reading) (mode : Mode) (remembers : Bool) : Reading :=
  { r with level := .opened mode remembers, outer := r.level :: r.outer }

/-- A reading behind the end of the innermost parentheses. -/
def leave? (r : Reading) : Option Reading :=
  match r.outer with
  | [] => none
  | l :: outer =>
    some { r with level := l.add (r.level.choice.group r.level.remembers), outer := outer }

/-- A text without a leading question mark and letters behind it. -/
def afterMark? (letters : List Char) (s : List Char) : Option (List Char) :=
  if ('?' :: letters).isPrefixOf s then some (s.drop (letters.length + 1)) else none

/-- Whether a text is the name of parentheses: a letter or low line first, then also numbers,
points and brackets. -/
def isName : List Char → Bool
  | [] => false
  | c :: cs => (c = '_' || Text.isLetter c) && cs.all fun c =>
    c = '_' || c = '.' || c = '[' || c = ']' || Text.isLetter c || Text.isNumber c

/-- New parentheses with a name, read behind the sign that opens the name. -/
def named? (r : Reading) (s : List Char) : Option (Reading × List Char) :=
  match s.span (· != '>') with
  | (name, '>' :: rest) =>
    if isName name ∧ ¬r.names.contains name then
      some ({ r with names := name :: r.names }.enter r.level.mode true, rest)
    else none
  | _ => none

/-- Flags, for the rest of the level or for new parentheses, read behind the question mark. -/
def flagged? (r : Reading) (s : List Char) : Option (Reading × List Char) :=
  match s.span fun c => c != ':' && c != ')' with
  | (items, ':' :: rest) =>
    if Mode.areFlags items then some (r.enter (r.level.mode.withFlags items) false, rest) else none
  | (items, ')' :: rest) =>
    if Mode.areFlags items ∧ items ≠ [] then
      some ({ r with level := r.level.withFlags items }, rest)
    else none
  | _ => none

/-- What an opening parenthesis starts. No condition looks ahead or back. -/
def opened? (r : Reading) (s : List Char) : Option (Reading × List Char) :=
  let s := r.level.mode.skip s
  if [['='], ['!'], ['<', '='], ['<', '!']].any fun signs => (afterMark? signs s).isSome then none
  else
    match afterMark? ['P', '<'] s <|> afterMark? ['<'] s with
    | some s => r.named? s
    | none =>
      match afterMark? [] s with
      | some s => r.flagged? s
      | none => some (r.enter r.level.mode true, s)

/-- A text without a leading question mark, which only tells which of several matches counts. -/
def dropMark : List Char → List Char
  | '?' :: s => s
  | s => s

/-- A repetition of the last piece, read behind its sign. -/
def repeated? (r : Reading) (least : Nat) (most : Option Nat) (s : List Char) :
    Option (Reading × List Char) :=
  (r.level.repeatLast? least most).map fun l => ({ r with level := l }, dropMark s)

/-- A number of repetitions, which may have blanks around it. -/
def readCount? (m : Mode) (s : List Char) : Option (Nat × List Char) := do
  let (digits, s) := m.run Char.isDigit (s.dropWhile Text.isBlank)
  let n ← Text.natural? digits
  guard (n < UInt32.size)
  return (n, s.dropWhile Text.isBlank)

/-- A repetition of the last piece with its numbers, read behind the brace. -/
def counted? (r : Reading) (s : List Char) : Option (Reading × List Char) := do
  let m := r.level.mode
  let (least, s) ← readCount? m (m.skip s)
  match s with
  | '\x7d' :: s => r.repeated? least (some least) (m.skip s)
  | ',' :: s =>
    match m.skip s with
    | '\x7d' :: s => r.repeated? least none (m.skip s)
    | s =>
      match ← readCount? m s with
      | (most, '\x7d' :: s) =>
        if least ≤ most then r.repeated? least (some most) (m.skip s) else none
      | _ => none
  | _ => none

/-- The reading behind the next item, which starts with a given character. -/
def step? (r : Reading) (c : Char) (s : List Char) : Option (Reading × List Char) :=
  let m := r.level.mode
  match c with
  | '(' => r.opened? s
  | ')' => r.leave?.map fun r => (r, s)
  | '|' => some ({ r with level := r.level.nextBranch }, s)
  | '[' => (readSet? m s).map fun (set, s) => (r.add (.bracketed set.set set.depth), s)
  | '?' => r.repeated? 0 (some 1) s
  | '*' => r.repeated? 0 none s
  | '+' => r.repeated? 1 none s
  | '\x7b' => r.counted? s
  | '\\' => do
    let (i, s) ← readEscape? m s
    return (r.add (← i.part? m), s)
  | '.' => if m.unicode then some (r.add (.oneOf .line), s) else none
  | '^' => some (r.add (.anchor .start), s)
  | '$' => some (r.add (.anchor .finish), s)
  | c => some (r.add (.literal m c), s)

/-- The reading behind a text, with a bound on the number of its items. -/
def readAll? : Nat → Reading → List Char → Option Reading
  | 0, _, _ => none
  | n + 1, r, s =>
    match r.level.mode.skip s with
    | [] => some r
    | c :: s => do
      let (r, s) ← r.step? c s
      readAll? n r s

end Reading

/-- The pattern that a text denotes. -/
def ofCharacters? (s : List Char) : Option Pattern := do
  let r ← Reading.readAll? (s.length + 1) .initial s
  guard r.outer.isEmpty
  r.level.choice.whole?

/-- The pattern that a text denotes. -/
def ofString? (s : String) : Option Pattern :=
  ofCharacters? s.toList

end ConfigFacts.Pattern
